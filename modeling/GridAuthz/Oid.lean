import GridAuthz.Der.Element

/-!
# Object identifiers

An object identifier is kept as the content of its encoding, since that is what two
identifiers are compared by. Its arcs are the numbers that its dotted text shows.

The first byte holds the first two arcs. Every other arc is written in base 128, most
significant digit first, with the high bit set on all but its last byte.
-/

namespace GridAuthz

namespace Oid

/-- The arcs written in base 128. `digits` are those of the arc being read, most recent first;
an arc has at most five, the fifth below `bound`, and is kept modulo `2 ^ 32`. -/
def readArcs? (bound : UInt8) (digits : List UInt8) : Bytes → Option (List Nat)
  | [] => if digits.isEmpty then some [] else none
  | b :: bs =>
    if 4 ≤ digits.length ∧ bound ≤ b then none
    else if 0x80 ≤ b then readArcs? bound ((b &&& 0x7F) :: digits) bs
    else do
      let arc := (b :: digits).foldr (fun d n => n * 128 + d.toNat) 0
      return arc % UInt32.size :: (← readArcs? bound [] bs)

/-- The arcs of an identifier with the given content: it has 2 to 39 bytes, and its first two
arcs are at most 2 and 39. -/
def arcsOfContent? (bound : UInt8) : Bytes → Option (List Nat)
  | [] => none
  | root :: body => do
    if 1 ≤ body.length ∧ body.length ≤ 38 ∧ root < 120 then
      return root.toNat / 40 :: root.toNat % 40 :: (← readArcs? bound [] body)
    else none

end Oid

/-- An object identifier. -/
structure Oid where
  /-- The content of its encoding. -/
  content : Bytes
  /-- The content is made of arcs. -/
  isOid : (Oid.arcsOfContent? 0x80 content).isSome = true
  deriving DecidableEq

namespace Oid

/-- The arcs. -/
def arcs (oid : Oid) : List Nat := (arcsOfContent? 0x80 oid.content).get oid.isOid

/-- The arcs with dots between them. -/
def toDotted (oid : Oid) : String := ".".intercalate (oid.arcs.map toString)

/-- The identifier with the given content. -/
def ofContent? (content : Bytes) : Option Oid :=
  if h : (arcsOfContent? 0x80 content).isSome = true then some ⟨content, h⟩ else none

/-- The element of an identifier. -/
def toElement (oid : Oid) : Der.Element := ⟨.objectIdentifier, oid.content⟩

/-- The identifier of an element. An encoding is read more strictly than a dotted text: it has
at least 3 bytes, and the fifth byte of an arc is below 16. -/
def ofElement? (e : Der.Element) : Option Oid := do
  let content ← e.contentOf? .objectIdentifier
  guard (3 ≤ content.length ∧ (arcsOfContent? 0x10 content).isSome)
  ofContent? content

/-! ### Dotted text -/

/-- The number of bytes that an arc is given. -/
def arcWidth (n : Nat) : Nat :=
  if n < 0x80 then 1
  else if n < 0x4000 then 2
  else if n < 0x200000 then 3
  else if n < 0x20000000 then 4
  else 5

/-- An arc in `width` bytes, in front of `tail`. Digits in base 128 are split off from the end of
the arc while it is above 128; what is left is the first byte, and the bytes in between are zero.
So the bytes are the digits of the arc, except that leading digits one and zero become `0x80` and
zero bytes. An arc that is above 128 when no more than one byte is left has no form. -/
def arcDigits? (width : Nat) (n : Nat) (tail : Bytes) : Option Bytes :=
  let mark : UInt8 := if tail.isEmpty then 0 else 0x80
  match width with
  | 0 => none
  | width + 1 =>
    if n ≤ 128 then some ((UInt8.ofNat n ||| mark) :: (List.replicate width 0 ++ tail))
    else arcDigits? width (n / 128) ((UInt8.ofNat (n % 128) ||| mark) :: tail)

/-- The bytes of an arc. -/
def encodeArc? (n : Nat) : Option Bytes := arcDigits? (arcWidth n) n []

/-- The identifier with the given arcs, each taken modulo `2 ^ 32`: at least three, the first at
most 2 and the second at most 39. Its content has at most 38 bytes. -/
def ofArcs? (arcs : List Nat) : Option Oid :=
  match arcs.map (· % UInt32.size) with
  | first :: second :: third :: rest => do
    guard (first ≤ 2 ∧ second ≤ 39)
    let body ← (third :: rest).mapM encodeArc?
    let content := UInt8.ofNat (first * 40 + second) :: body.flatten
    guard (content.length ≤ 38)
    ofContent? content
  | _ => none

/-- The number that decimal digits write; no digits write zero. -/
def arcOfDigits? (digits : List Char) : Option Nat :=
  if digits.all Char.isDigit then
    some (digits.foldl (fun n c => n * 10 + (c.toNat - 48)) 0)
  else none

/-- The identifier with the given dotted text. The text starts with a digit and does not end
with a dot; an arc left out between two dots is zero. -/
def ofDotted? (text : List Char) : Option Oid := do
  guard (text.head?.any Char.isDigit ∧ text.getLast? ≠ some '.')
  ofArcs? (← (text.splitOn '.').mapM arcOfDigits?)

end Oid

end GridAuthz
