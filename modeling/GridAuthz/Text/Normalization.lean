import GridAuthz.Text.CombiningClass
import GridAuthz.Text.Composition
import GridAuthz.Text.Decomposition.Ideographs
import GridAuthz.Text.Decomposition.Latin
import GridAuthz.Text.Decomposition.Mathematical
import GridAuthz.Text.Decomposition.Presentation
import GridAuthz.Text.Decomposition.Scripts
import GridAuthz.Text.Decomposition.Symbols

/-!
# Normalization form KC

A text is normalized in three steps: every character is replaced by its full compatibility
decomposition, combining marks are put into canonical order, and pairs that have a primary
composite are composed again.

The syllables of Hangul have no rows in the tables; their decomposition is arithmetic.
-/

namespace GridAuthz.Text

/-! ### Hangul syllables -/

namespace Hangul

/-- The first syllable. -/
def syllableBase : Nat := 0xAC00

/-- The first leading consonant. -/
def leadBase : Nat := 0x1100

/-- The first vowel. -/
def vowelBase : Nat := 0x1161

/-- One before the first trailing consonant. -/
def trailBase : Nat := 0x11A7

/-- How many leading consonants there are. -/
def leadCount : Nat := 19

/-- How many vowels there are. -/
def vowelCount : Nat := 21

/-- How many trailing consonants there are, counting the absent one. -/
def trailCount : Nat := 28

/-- How many syllables there are. -/
def syllableCount : Nat := leadCount * vowelCount * trailCount

/-- The letters of the syllable with the given index. -/
def lettersOf (index : Nat) : List Nat :=
  let lead := leadBase + index / (vowelCount * trailCount)
  let vowel := vowelBase + index % (vowelCount * trailCount) / trailCount
  let trail := index % trailCount
  if trail = 0 then [lead, vowel] else [lead, vowel, trailBase + trail]

/-- A leading consonant and a vowel make a syllable, and a syllable without a trailing
consonant takes one. -/
def compose? (a b : Nat) : Option Nat :=
  if leadBase ≤ a ∧ a < leadBase + leadCount ∧ vowelBase ≤ b ∧ b < vowelBase + vowelCount then
    some (syllableBase + ((a - leadBase) * vowelCount + (b - vowelBase)) * trailCount)
  else if syllableBase ≤ a ∧ a < syllableBase + syllableCount ∧
      (a - syllableBase) % trailCount = 0 ∧ trailBase < b ∧ b < trailBase + trailCount then
    some (a + (b - trailBase))
  else none

end Hangul

/-! ### Decomposition -/

/-- All rows of the decomposition table. -/
def decompositionRows : List Decomposition.Row :=
  Decomposition.latin ++ Decomposition.scripts ++ Decomposition.symbols ++
    Decomposition.ideographs ++ Decomposition.presentation ++ Decomposition.mathematical

/-- The full compatibility decomposition of a code point. -/
def decomposeCodePoint (n : Nat) : List Nat :=
  if n < 0xA0 then [n]
  else if Hangul.syllableBase ≤ n ∧ n < Hangul.syllableBase + Hangul.syllableCount then
    Hangul.lettersOf (n - Hangul.syllableBase)
  else (decompositionRows.findSome? (·.find? n)).getD [n]

/-- The full compatibility decomposition of a character. -/
def decompose (c : Char) : List Char := (decomposeCodePoint c.toNat).map Char.ofNat

/-! ### Canonical order -/

/-- Puts a mark behind the marks whose combining class is not above its own. -/
def insertMark (c : Char) (marks : List Char) : List Char :=
  let (before, after) := marks.span fun m => combiningClass m ≤ combiningClass c
  before ++ c :: after

/-- Sorts the marks that follow each starter by combining class; `marks` are those read since
the last starter, in order. -/
def orderMarks (marks : List Char) : List Char → List Char
  | [] => marks
  | c :: cs =>
    if combiningClass c = 0 then marks ++ c :: orderMarks [] cs
    else orderMarks (insertMark c marks) cs

/-! ### Composition -/

/-- The primary composite of two characters. -/
def composePair? (a b : Char) : Option Char :=
  match Hangul.compose? a.toNat b.toNat with
  | some n => some (Char.ofNat n)
  | none => ((primaryComposites.lookup a.toNat).bind (·.lookup b.toNat)).map Char.ofNat

/-- Composes what follows `starter`. The marks `held` follow it already and did not compose
with it, the last of them with class `lastClass`; a character whose class is not above that
is blocked. -/
def composeAfter (starter : Char) (held : List Char) (lastClass : Option Nat) :
    List Char → List Char
  | [] => starter :: held
  | c :: cs =>
    let cls := combiningClass c
    let joined := if lastClass.any (cls ≤ ·) then none else composePair? starter c
    match joined with
    | some composite => composeAfter composite held lastClass cs
    | none =>
      if cls = 0 then starter :: (held ++ composeAfter c [] none cs)
      else composeAfter starter (held ++ [c]) (some cls) cs

/-- Composes a text in canonical order. Marks in front of the first starter stay. -/
def compose : List Char → List Char
  | [] => []
  | c :: cs =>
    if combiningClass c = 0 then composeAfter c [] none cs else c :: compose cs

/-- Normalization form KC. -/
def nfkc (cs : List Char) : List Char :=
  compose (orderMarks [] (cs.flatMap decompose))

end GridAuthz.Text
