import GridAuthz.Text.Cut

/-!
# Policy authorities

The authority behind a set of groups and roles is written `vo://host:port`: the virtual
organisation and the address of its server. The organisation ends at the first `://`, the port
starts after the last colon.
-/

namespace GridAuthz

/-- A virtual organisation with the address of its server. -/
structure PolicyAuthority where
  /-- The virtual organisation. -/
  vo : String
  /-- The host of the server. -/
  host : String
  /-- The port of the server. -/
  port : UInt16
  deriving DecidableEq

namespace PolicyAuthority

/-- What stands between the organisation and the host. -/
def separator : List Char := "://".toList

/-- The number that decimal digits write, of which there is at least one. -/
def decimal? (digits : List Char) : Option Nat :=
  if !digits.isEmpty && digits.all Char.isDigit then
    some (digits.foldl (fun n c => n * 10 + (c.toNat - 48)) 0)
  else none

/-- A port in decimal, of at most 16 bits. A plus sign may stand in front. -/
def port? (text : List Char) : Option UInt16 :=
  let digits := match text with
    | '+' :: digits => digits
    | digits => digits
  (decimal? digits).bind fun n => if n < UInt16.size then some (UInt16.ofNat n) else none

/-- The authority that a list of characters writes. -/
def ofChars? (text : List Char) : Option PolicyAuthority := do
  let (vo, address) ← Text.cutAtText? separator text
  let (host, port) ← Text.cutAtLast? ':' address
  if vo.isEmpty || host.isEmpty then none
  else return ⟨String.ofList vo, String.ofList host, ← port? port⟩

/-- The authority that a text writes. -/
def ofText? (text : String) : Option PolicyAuthority := ofChars? text.toList

/-- The text of an authority. -/
def toText (a : PolicyAuthority) : String := a.vo ++ "://" ++ a.host ++ ":" ++ toString a.port.toNat

end PolicyAuthority

end GridAuthz
