/-!
# Rows of a decomposition table

A table of decompositions is a list of rows; a row gives the decompositions of
consecutive characters.
-/

namespace GridAuthz.Text.Decomposition

/-- The decompositions of the characters from `first` on, one after the other. -/
structure Row where
  /-- The code point of the first character of the row. -/
  first : Nat
  /-- The code points each character decomposes into. -/
  images : Array (List Nat)

/-- The decomposition a row gives for the code point `n`. -/
def Row.find? (row : Row) (n : Nat) : Option (List Nat) :=
  if row.first ≤ n then row.images[n - row.first]? else none

end GridAuthz.Text.Decomposition
