/-!
# White space

The characters of the Unicode property White_Space, and the two operations on text that
depend on it: trimming, and cutting a text into lines.
-/

namespace GridAuthz.Text

/-- The characters with the property White_Space. -/
def isWhitespace (c : Char) : Bool :=
  let n := c.toNat
  (9 ≤ n && n ≤ 13) || n == 0x20 || n == 0x85 || n == 0xA0 || n == 0x1680 ||
    (0x2000 ≤ n && n ≤ 0x200A) || n == 0x2028 || n == 0x2029 || n == 0x202F ||
    n == 0x205F || n == 0x3000

/-- A list of characters without the white space at its two ends. -/
def trimChars (cs : List Char) : List Char :=
  ((cs.dropWhile isWhitespace).reverse.dropWhile isWhitespace).reverse

/-- A text without the white space at its two ends. -/
def trim (s : String) : String := String.ofList (trimChars s.toList)

/-- The lines of a text. A line ends at a line feed, or at a carriage return followed by a
line feed; the last line need not be ended. -/
def linesOf : List Char → List (List Char)
  | [] => []
  | c :: cs =>
    if c = '\n' then [] :: linesOf cs
    else match cs with
      | [] => [[c]]
      | d :: ds =>
        if c = '\r' ∧ d = '\n' then [] :: linesOf ds
        else match linesOf (d :: ds) with
          | [] => [[c]]
          | line :: lines => (c :: line) :: lines

end GridAuthz.Text
