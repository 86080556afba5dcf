import GridAuthz.Text.CaseFolding
import GridAuthz.Text.Normalization
import GridAuthz.Text.Whitespace

/-!
# String preparation

Two attribute values are compared in their prepared form: white space is mapped to plain
spaces and ignorable characters are dropped, the rest is normalized to form KC and case
folded, and the runs of spaces that remain are made canonical.
-/

namespace GridAuthz.Text

/-- The ranges of characters that are mapped to nothing: first and last code point. -/
def ignorableRanges : List (Nat × Nat) := [
  (0x0, 0x8), (0xE, 0x1F), (0x7F, 0x84), (0x86, 0x9F), (0xAD, 0xAD), (0x34F, 0x34F),
  (0x6DD, 0x6DD), (0x70F, 0x70F), (0x1806, 0x1806), (0x180B, 0x180E), (0x200B, 0x200F),
  (0x202A, 0x202E), (0x2060, 0x2063), (0x206A, 0x206F), (0xFE00, 0xFE0F), (0xFEFF, 0xFEFF),
  (0xFFF9, 0xFFFC), (0x1D173, 0x1D17A), (0xE0001, 0xE0001), (0xE0020, 0xE0074)]

/-- Characters that carry no meaning in a comparison. -/
def isIgnorable (c : Char) : Bool :=
  ignorableRanges.any fun (first, last) => first ≤ c.toNat && c.toNat ≤ last

/-- White space becomes a space, an ignorable character nothing. -/
def mapCharacter? (c : Char) : Option Char :=
  if isWhitespace c then some ' ' else if isIgnorable c then none else some c

/-- The non-empty pieces between spaces. -/
def wordsOf (cs : List Char) : List (List Char) :=
  (cs.splitOn ' ').filter fun word => !word.isEmpty

/-- The words of a text with two spaces between them and one space at each end. -/
def compressSpaces (cs : List Char) : List Char :=
  ' ' :: ([' ', ' '].intercalate (wordsOf cs) ++ [' '])

/-- The prepared form of a list of characters. -/
def prepareChars (cs : List Char) : List Char :=
  compressSpaces (foldCase (nfkc (cs.filterMap mapCharacter?)))

/-- The prepared form of a text. Two attribute values match when their prepared forms are
equal. -/
def prepare (s : String) : String := String.ofList (prepareChars s.toList)

end GridAuthz.Text
