import GridAuthz.Text.Base64
import GridAuthz.Text.Cut
import GridAuthz.Text.Whitespace

/-!
# PEM text

A block of PEM text is a byte string in base64 between a line that begins it and a line that
ends it, both with the same label. A text may hold any number of blocks; what stands between
them is ignored.

Blocks are found from left to right. Markers are looked for in one pass: a character that
breaks a partial match of the marker is not tried as its first character
(`afterMarker?`).
-/

namespace GridAuthz

/-- A block of PEM text. -/
structure PemBlock where
  /-- The label of its first and last line. -/
  label : String
  /-- What it holds. -/
  contents : Bytes
  deriving DecidableEq

/-- Why a text cannot be read as PEM. -/
inductive PemError where
  /-- The first line of a block has no label. -/
  | missingBeginLabel
  /-- The last line of a block has no label, or there is no last line. -/
  | missingEndLabel
  /-- The labels of the first and the last line differ. -/
  | mismatchedLabels
  /-- What a block holds is not base64. -/
  | invalidData
  /-- A header of a block has no colon. -/
  | invalidHeader
  deriving DecidableEq

namespace Pem

/-- What the first line of a block starts with. -/
def beginMarker : List Char := "-----BEGIN ".toList

/-- What the last line of a block starts with. -/
def endMarker : List Char := "-----END ".toList

/-- What ends the first and the last line of a block. -/
def dashes : List Char := "-----".toList

/-! ### Finding blocks -/

/-- What follows the first match of the marker, of which `pending` is still to come. -/
def afterMarker? (marker pending : List Char) (cs : List Char) : Option (List Char) :=
  match pending, cs with
  | [], cs => some cs
  | _, [] => none
  | p :: pending, c :: cs =>
    if c = p then afterMarker? marker pending cs else afterMarker? marker marker cs

/-- What precedes and what follows the first match of a marker. -/
def splitAtMarker? (marker cs : List Char) : Option (List Char × List Char) :=
  (afterMarker? marker marker cs).map fun rest =>
    (cs.take (cs.length - rest.length - marker.length), rest)

/-- White space that may follow a line of a block. -/
def skipBlanks (cs : List Char) : List Char :=
  cs.dropWhile fun c => c = ' ' || c = '\t' || c = '\n' || c = '\r'

/-- A block as it is found, not yet looked into. -/
structure RawBlock where
  /-- The label of the first line. -/
  beginLabel : List Char
  /-- All that stands between the first and the last line. -/
  body : List Char
  /-- The label of the last line. -/
  endLabel : List Char

/-- The first block of a text, with what follows it. -/
def nextBlock? (cs : List Char) : Option (RawBlock × List Char) := do
  let (_, rest) ← splitAtMarker? beginMarker cs
  let (beginLabel, rest) ← splitAtMarker? dashes rest
  let (body, rest) ← splitAtMarker? endMarker (skipBlanks rest)
  let (endLabel, rest) ← splitAtMarker? dashes rest
  return (⟨beginLabel, body, endLabel⟩, skipBlanks rest)

theorem length_of_afterMarker? {marker pending cs rest : List Char}
    (h : afterMarker? marker pending cs = some rest) : rest.length ≤ cs.length := by
  induction cs generalizing pending with
  | nil => cases pending <;> simp_all [afterMarker?]
  | cons c cs ih =>
    cases pending with
    | nil => simp_all [afterMarker?]
    | cons p pending =>
      rw [afterMarker?] at h
      split at h
      all_goals exact Nat.le_succ_of_le (ih h)

theorem length_lt_of_afterMarker? {p : Char} {marker pending cs rest : List Char}
    (h : afterMarker? marker (p :: pending) cs = some rest) : rest.length < cs.length := by
  cases cs with
  | nil => simp [afterMarker?] at h
  | cons c cs =>
    rw [afterMarker?] at h
    split at h
    all_goals exact Nat.lt_succ_of_le (length_of_afterMarker? h)

theorem length_of_splitAtMarker? {marker cs before rest : List Char}
    (h : splitAtMarker? marker cs = some (before, rest)) : rest.length ≤ cs.length := by
  obtain ⟨r, hr, h⟩ := Option.map_eq_some_iff.1 h
  cases h
  exact length_of_afterMarker? hr

theorem length_skipBlanks_le (cs : List Char) : (skipBlanks cs).length ≤ cs.length :=
  (List.dropWhile_suffix _).length_le

theorem length_of_nextBlock? {cs rest : List Char} {block : RawBlock}
    (h : nextBlock? cs = some (block, rest)) : rest.length < cs.length := by
  simp only [nextBlock?, Option.bind_eq_bind, Option.bind_eq_some_iff, Prod.exists,
    Option.pure_def, Option.some.injEq, Prod.mk.injEq] at h
  obtain ⟨_, r₁, h₁, _, r₂, h₂, _, r₃, h₃, _, r₄, h₄, -, rfl⟩ := h
  have h₁ : r₁.length < cs.length := by
    obtain ⟨r, hr, h⟩ := Option.map_eq_some_iff.1 h₁
    cases h
    exact length_lt_of_afterMarker? hr
  have h₂ := length_of_splitAtMarker? h₂
  have h₃ := length_of_splitAtMarker? h₃
  have h₄ := length_of_splitAtMarker? h₄
  have h₅ := length_skipBlanks_le r₂
  have h₆ := length_skipBlanks_le r₄
  omega

/-- The blocks of a text, from left to right. A last block that is not ended is not among
them. -/
def rawBlocks (cs : List Char) : List RawBlock :=
  match h : nextBlock? cs with
  | none => []
  | some (block, rest) =>
    have := length_of_nextBlock? h
    block :: rawBlocks rest
termination_by cs.length

/-! ### Reading blocks -/

/-- The headers of a block and what follows them. They end at the first empty line. -/
def splitHeaders (body : List Char) : List Char × List Char :=
  ((splitAtMarker? ['\n', '\n'] body).orElse fun _ =>
    splitAtMarker? ['\r', '\n', '\r', '\n'] body).getD ([], body)

/-- Reads what a block holds. -/
def RawBlock.read (block : RawBlock) : Except PemError PemBlock :=
  if block.beginLabel.isEmpty then .error .missingBeginLabel
  else if block.endLabel.isEmpty then .error .missingEndLabel
  else if block.beginLabel ≠ block.endLabel then .error .mismatchedLabels
  else
    let (headers, data) := splitHeaders block.body
    match Base64.decode? (data.filter fun c => !Text.isWhitespace c) with
    | none => .error .invalidData
    | some contents =>
      if (Text.linesOf headers).all (·.contains ':') then
        .ok ⟨String.ofList block.beginLabel, contents⟩
      else .error .invalidHeader

/-- How often a text occurs in another, at places that may overlap. -/
def occurrences (pattern : List Char) : List Char → Nat
  | [] => if pattern.isEmpty then 1 else 0
  | c :: cs => (if pattern.isPrefixOf (c :: cs) then 1 else 0) + occurrences pattern cs

/-- The blocks of a text. Every first line that occurs in it has to begin a block. -/
def read (text : String) : Except PemError (List PemBlock) := do
  let cs := text.toList
  let blocks ← (rawBlocks cs).mapM RawBlock.read
  if occurrences beginMarker cs = blocks.length then .ok blocks else .error .missingEndLabel

/-! ### Writing blocks -/

/-- The pieces of a list of characters, of at most `width` each. -/
def wrap (width : Nat) : (fuel : Nat) → List Char → List (List Char)
  | 0, _ => []
  | fuel + 1, cs =>
    if cs.isEmpty then [] else cs.take width :: wrap width fuel (cs.drop width)

/-- The text of a block, with lines of 64 characters. -/
def PemBlock.toChars (block : PemBlock) : List Char :=
  let lines := wrap 64 (block.contents.length * 2) (Base64.encode block.contents)
  beginMarker ++ block.label.toList ++ dashes ++ ['\n'] ++
    lines.flatMap (· ++ ['\n']) ++
    endMarker ++ block.label.toList ++ dashes ++ ['\n']

/-- The text of a list of blocks. -/
def write (blocks : List PemBlock) : String := String.ofList (blocks.flatMap PemBlock.toChars)

end Pem

end GridAuthz
