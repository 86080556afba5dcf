/-!
# Cutting a text

A text is cut in two at the first or the last place where a separator stands.
-/

namespace GridAuthz.Text

/-- What stands before and after the first occurrence of a character. -/
def cutAt? (c : Char) (cs : List Char) : Option (List Char × List Char) :=
  match cs.span (· ≠ c) with
  | (before, _ :: after) => some (before, after)
  | (_, []) => none

/-- What stands before and after the last occurrence of a character. -/
def cutAtLast? (c : Char) (cs : List Char) : Option (List Char × List Char) :=
  (cutAt? c cs.reverse).map fun (after, before) => (before.reverse, after.reverse)

/-- What stands before and after the first occurrence of a text. -/
def cutAtText? (separator : List Char) : List Char → Option (List Char × List Char)
  | [] => if separator.isEmpty then some ([], []) else none
  | c :: cs =>
    if separator.isPrefixOf (c :: cs) then some ([], (c :: cs).drop separator.length)
    else (cutAtText? separator cs).map fun (before, after) => (c :: before, after)

/-- The text without an ending, if it has that ending. -/
def dropEnding? (ending : List Char) (cs : List Char) : Option (List Char) :=
  if ending.isSuffixOf cs then some (cs.take (cs.length - ending.length)) else none

end GridAuthz.Text
