import GridAuthz.Der.Primitive

/-!
# Serial numbers

Serial numbers are compared by their encodings, so the content of the INTEGER is what is kept.
-/

namespace GridAuthz

/-- A serial number of at most 21 bytes. -/
structure SerialNumber where
  /-- The content of the INTEGER. -/
  content : Bytes
  /-- The number is in two's complement, in the fewest bytes. -/
  isInteger : Der.isIntegerContent content = true
  /-- No more bytes are accepted. -/
  length_le : content.length ≤ 21
  deriving DecidableEq

namespace SerialNumber

/-- The serial number with the given content. -/
def ofContent? (content : Bytes) : Option SerialNumber :=
  if h : Der.isIntegerContent content = true ∧ content.length ≤ 21 then
    some ⟨content, h.1, h.2⟩
  else none

/-- A number as a serial number. -/
def ofNat? (n : Nat) : Option SerialNumber := ofContent? (Der.unsignedContent n)

/-- The element of a serial number. -/
def toElement (s : SerialNumber) : Der.Element := ⟨.integer, s.content⟩

/-- The serial number of an element. -/
def ofElement? (e : Der.Element) : Option SerialNumber :=
  (e.contentOf? .integer).bind ofContent?

/-- The text of a serial number: its bytes in upper case hexadecimal. -/
def toText (s : SerialNumber) : String := s.content.hexUpper

end SerialNumber

end GridAuthz
