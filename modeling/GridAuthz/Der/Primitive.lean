import GridAuthz.Der.Element

/-!
# Primitive values

The primitive types of ASN.1 that certificates are made of. Each has a function that writes
a value as an element, `toElement`, and one that reads it, `ofElement?`; what is read has
exactly one written form.
-/

namespace GridAuthz.Der

/-! ### BOOLEAN -/

/-- A BOOLEAN element; truth is all ones. -/
def Element.ofBool (b : Bool) : Element := ⟨.boolean, [if b then 0xFF else 0x00]⟩

/-- The truth value of a BOOLEAN element. -/
def Element.bool? (e : Element) : Option Bool :=
  match e.contentOf? .boolean with
  | some [0xFF] => some true
  | some [0x00] => some false
  | _ => none

/-! ### INTEGER -/

/-- The content of an INTEGER is its two's complement in the fewest bytes, at least one. -/
def isIntegerContent : Bytes → Bool
  | [] => false
  | [_] => true
  | a :: b :: _ => !(a == 0x00 && b < 0x80) && !(a == 0xFF && 0x80 ≤ b)

/-- The content of a non-negative INTEGER. -/
def unsignedContent (n : Nat) : Bytes :=
  match Bytes.ofNat n with
  | [] => [0]
  | b :: bs => if b < 0x80 then b :: bs else 0 :: b :: bs

/-- A non-negative INTEGER. -/
def Element.ofNat (n : Nat) : Element := ⟨.integer, unsignedContent n⟩

/-- The value of an INTEGER that is not negative. -/
def Element.nat? (e : Element) : Option Nat :=
  match e.contentOf? .integer with
  | some (b :: bs) =>
    if isIntegerContent (b :: bs) ∧ b < 0x80 then some (Bytes.toNat (b :: bs)) else none
  | _ => none

/-- The value of an INTEGER from zero up to, but not including, `bound`. -/
def Element.natBelow? (bound : Nat) (e : Element) : Option Nat :=
  e.nat?.bind fun n => if n < bound then some n else none

/-! ### BIT STRING -/

/-- A string of bits in whole bytes, of which the last `unused` bits do not count. -/
structure BitString where
  /-- How many bits of the last byte do not belong to the string. -/
  unused : Nat
  /-- The bytes that hold the bits. -/
  bytes : Bytes
  /-- Fewer than eight bits are unused. -/
  unused_lt : unused < 8
  /-- An empty string has no unused bits. -/
  unused_eq : bytes = [] → unused = 0
  deriving DecidableEq

namespace BitString

/-- A bit string in whole bytes. -/
def ofBytes (bytes : Bytes) : BitString := ⟨0, bytes, by decide, fun _ => rfl⟩

/-- The bytes, if all their bits belong to the string. -/
def octets? (s : BitString) : Option Bytes := if s.unused = 0 then some s.bytes else none

/-- The content counts the unused bits first. -/
def content (s : BitString) : Bytes := UInt8.ofNat s.unused :: s.bytes

/-- The bit string with the given content. -/
def ofContent? : Bytes → Option BitString
  | [] => none
  | unused :: bytes =>
    if h : unused.toNat < 8 ∧ (bytes = [] → unused.toNat = 0) then
      some ⟨unused.toNat, bytes, h.1, h.2⟩
    else none

/-- The element of a bit string. -/
def toElement (s : BitString) : Element := ⟨.bitString, s.content⟩

/-- The bit string of an element. -/
def ofElement? (e : Element) : Option BitString :=
  (e.contentOf? .bitString).bind ofContent?

end BitString

/-! ### OCTET STRING -/

/-- An OCTET STRING element. -/
def Element.ofOctets (bytes : Bytes) : Element := ⟨.octetString, bytes⟩

/-- The bytes of an OCTET STRING element. -/
def Element.octets? (e : Element) : Option Bytes := e.contentOf? .octetString

/-! ### Character strings -/

/-- A text of ASCII characters, the values of an IA5String. -/
structure AsciiText where
  /-- The text. -/
  text : String
  /-- Its characters are ASCII. -/
  isAscii : text.toList.all (·.toNat < 0x80) = true
  deriving DecidableEq

namespace AsciiText

/-- A text as an ASCII text. -/
def ofString? (text : String) : Option AsciiText :=
  if h : text.toList.all (·.toNat < 0x80) = true then some ⟨text, h⟩ else none

/-- One byte for each character. -/
def toBytes (s : AsciiText) : Bytes := s.text.toList.map fun c => UInt8.ofNat c.toNat

/-- The text with the given bytes. -/
def ofBytes? (bytes : Bytes) : Option AsciiText :=
  ofString? (String.ofList (bytes.map fun b => Char.ofNat b.toNat))

/-- The element of an ASCII text. -/
def toElement (s : AsciiText) : Element := ⟨.ia5String, s.toBytes⟩

/-- The ASCII text of an element. -/
def ofElement? (e : Element) : Option AsciiText := (e.contentOf? .ia5String).bind ofBytes?

end AsciiText

/-- The characters a PrintableString may hold. -/
def isPrintable (b : UInt8) : Bool :=
  let c := Char.ofNat b.toNat
  c.isAlphanum || " '()+,-./:=?".toList.contains c

/-- The text of a PrintableString with the given content. -/
def printableText? (bytes : Bytes) : Option String :=
  if bytes.all isPrintable then some (String.ofList (bytes.map fun b => Char.ofNat b.toNat))
  else none

/-- A UTF8String element. -/
def Element.ofUtf8 (text : String) : Element := ⟨.utf8String, Bytes.ofText text⟩

/-- The text of a UTF8String element. -/
def Element.utf8? (e : Element) : Option String :=
  (e.contentOf? .utf8String).bind Bytes.toText?

/-- The text of an element that is a PrintableString, a UTF8String or an IA5String. -/
def Element.directoryText? (e : Element) : Option String :=
  if e.tag = .printableString then printableText? e.content
  else if e.tag = .utf8String then Bytes.toText? e.content
  else if e.tag = .ia5String then (AsciiText.ofBytes? e.content).map (·.text)
  else none

end GridAuthz.Der
