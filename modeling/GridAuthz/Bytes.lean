/-!
# Byte strings

A byte string is a list of bytes, first byte first. Here are the readings of a byte
string that the other modules share: as a number in base 256, as hexadecimal text and
as UTF-8 text.
-/

namespace GridAuthz

/-- A byte string. -/
abbrev Bytes := List UInt8

namespace Bytes

/-! ### Pieces and sums -/

/-- The first `count` pieces of a list, of `size` elements each. -/
def pieces {α : Type} (size : Nat) : (count : Nat) → List α → List (List α)
  | 0, _ => []
  | count + 1, xs => xs.take size :: pieces size count (xs.drop size)

/-- The sum of two byte strings of equal length, bit by bit without carry. -/
def xor (a b : Bytes) : Bytes := List.zipWith (· ^^^ ·) a b

/-! ### Numbers -/

/-- The number whose base 256 digits are `bs`, most significant first. -/
def toNat (bs : Bytes) : Nat := bs.foldl (fun n b => n * 256 + b.toNat) 0

/-- The last `width` base 256 digits of `n`, most significant first. -/
def ofNatWidth : (width : Nat) → Nat → Bytes
  | 0, _ => []
  | width + 1, n => UInt8.ofNat (n >>> (8 * width)) :: ofNatWidth width n

@[simp] theorem length_ofNatWidth (width n : Nat) : (ofNatWidth width n).length = width := by
  induction width with
  | zero => rfl
  | succ width ih => simp [ofNatWidth, ih]

/-- How many base 256 digits `n` has; zero has none. -/
def digitCount (n : Nat) : Nat := if n = 0 then 0 else n.log2 / 8 + 1

/-- The base 256 digits of `n`, most significant first and without leading zeros. -/
def ofNat (n : Nat) : Bytes := ofNatWidth (digitCount n) n

/-! ### Hexadecimal text -/

/-- The digit of a value below 16. -/
def hexDigit (n : Nat) : Char :=
  if n < 10 then Char.ofNat (48 + n) else Char.ofNat (87 + n)

/-- Two lower case digits per byte. -/
def hex (bs : Bytes) : String :=
  String.ofList (bs.flatMap fun b => [hexDigit (b.toNat / 16), hexDigit (b.toNat % 16)])

/-- Two upper case digits per byte. -/
def hexUpper (bs : Bytes) : String :=
  String.ofList (bs.hex.toList.map Char.toUpper)

/-- The value of a hexadecimal digit, in either case. -/
def hexValue? (c : Char) : Option UInt8 :=
  if '0' ≤ c ∧ c ≤ '9' then some (UInt8.ofNat (c.toNat - 48))
  else if 'a' ≤ c ∧ c ≤ 'f' then some (UInt8.ofNat (c.toNat - 87))
  else if 'A' ≤ c ∧ c ≤ 'F' then some (UInt8.ofNat (c.toNat - 55))
  else none

/-- The bytes written as hexadecimal digits, two for each. -/
def ofHexChars? : List Char → Option Bytes
  | [] => some []
  | a :: b :: rest => do
    let high ← hexValue? a
    let low ← hexValue? b
    return (high * 16 + low) :: (← ofHexChars? rest)
  | [_] => none

/-- The bytes of a hexadecimal text. -/
def ofHex? (s : String) : Option Bytes := ofHexChars? s.toList

/-! ### UTF-8 text -/

/-- The text that `bs` encodes, if it is well formed UTF-8. -/
def toText? (bs : Bytes) : Option String := String.fromUTF8? bs.toByteArray

/-- The UTF-8 encoding of a text. -/
def ofText (s : String) : Bytes := s.toUTF8.data.toList

end Bytes

end GridAuthz
