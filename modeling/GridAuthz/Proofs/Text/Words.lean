import GridAuthz.Text.Preparation
import GridAuthz.Proofs.Text.Cutting

/-!
# Words and the spaces around them

A space parts the words on its two sides (`wordsOf_append_space_append`), so that a text put together
from words has these words (`wordsOf_intercalate`), and compressing the spaces of a text keeps its
words (`wordsOf_compressSpaces`).

Whether the spaces of a text are compressed can be told without asking for its words, from how many
of them stand in a row (`IsCompressed`). Such texts are the ones put together from words
(`isCompressed_iff`), one for each list of words, and compressing the spaces of a text finds the one
with its words (`compressSpaces_canonical`).
-/

namespace GridAuthz.Text

/-! ### Words -/

/-- The text is not empty, and no space parts it. -/
def IsWord (word : List Char) : Prop := word ≠ [] ∧ ' ' ∉ word

theorem isWord_of_mem_wordsOf {cs word : List Char} (h : word ∈ wordsOf cs) : IsWord word := by
  obtain ⟨hmem, hne⟩ := List.mem_filter.1 h
  exact ⟨by simpa using hne, notMem_of_mem_splitOn hmem⟩

theorem wordsOf_of_isWord {word : List Char} (h : IsWord word) : wordsOf word = [word] := by
  rw [wordsOf, List.splitOn_eq_singleton h.2]
  simp [h.1]

@[simp] theorem wordsOf_nil : wordsOf [] = [] := rfl

theorem wordsOf_append_space_append (xs ys : List Char) :
    wordsOf (xs ++ ' ' :: ys) = wordsOf xs ++ wordsOf ys := by
  rw [wordsOf, wordsOf, wordsOf, List.splitOn_append_cons_self, List.filter_append]

@[simp] theorem wordsOf_space_cons (cs : List Char) : wordsOf (' ' :: cs) = wordsOf cs :=
  wordsOf_append_space_append [] cs

@[simp] theorem wordsOf_append_space (cs : List Char) : wordsOf (cs ++ [' ']) = wordsOf cs := by
  rw [wordsOf_append_space_append, wordsOf_nil, List.append_nil]

/-! ### Texts put together from words -/

section Intercalate

variable {word next : List Char} {words : List (List Char)}

theorem intercalate_spaces_cons_cons :
    [' ', ' '].intercalate (word :: next :: words) =
      word ++ ' ' :: ' ' :: [' ', ' '].intercalate (next :: words) := by
  rw [List.intercalate_cons_cons, List.append_assoc]
  rfl

/-- The words of a text are those that stand between its spaces. -/
theorem wordsOf_intercalate (h : ∀ word ∈ words, IsWord word) :
    wordsOf ([' ', ' '].intercalate words) = words := by
  induction words with
  | nil => rfl
  | cons word words ih =>
    obtain ⟨hword, hwords⟩ := List.forall_mem_cons.1 h
    cases words with
    | nil => rw [List.intercalate_singleton, wordsOf_of_isWord hword]
    | cons next words =>
      rw [intercalate_spaces_cons_cons, wordsOf_append_space_append, wordsOf_of_isWord hword,
        wordsOf_space_cons, ih hwords]
      rfl

/-- It begins with a word. -/
theorem exists_intercalate_cons_eq (h : IsWord word) (words : List (List Char)) :
    ∃ c cs, c ≠ ' ' ∧ [' ', ' '].intercalate (word :: words) = c :: cs := by
  obtain ⟨c, cs, rfl⟩ := List.exists_cons_of_ne_nil h.1
  obtain ⟨hc, -⟩ := not_or.1 (mt List.mem_cons.2 h.2)
  cases words with
  | nil => exact ⟨c, cs, Ne.symm hc, List.intercalate_singleton⟩
  | cons next words => exact ⟨c, _, Ne.symm hc, intercalate_spaces_cons_cons⟩

/-- It ends with a word. -/
theorem not_space_suffix_intercalate (h : ∀ word ∈ words, IsWord word) :
    ¬[' '] <:+ [' ', ' '].intercalate words := by
  induction words with
  | nil => simp
  | cons word words ih =>
    obtain ⟨hword, hwords⟩ := List.forall_mem_cons.1 h
    cases words with
    | nil =>
      rw [List.intercalate_singleton]
      exact fun hsuffix => hword.2 (hsuffix.mem List.mem_cons_self)
    | cons next words =>
      obtain ⟨c, cs, hc, hcs⟩ := exists_intercalate_cons_eq (hwords next List.mem_cons_self) words
      have hlast := ih hwords
      rw [intercalate_spaces_cons_cons]
      rw [hcs] at hlast ⊢
      intro hsuffix
      have hrest : c :: cs <:+ word ++ ' ' :: ' ' :: c :: cs :=
        ⟨word ++ [' ', ' '], by simp⟩
      exact hlast (List.suffix_of_suffix_length_le hsuffix hrest (by simp))

end Intercalate

/-! ### Compressing -/

/-- Compressing the spaces of a text keeps its words. -/
theorem wordsOf_compressSpaces (cs : List Char) : wordsOf (compressSpaces cs) = wordsOf cs := by
  rw [compressSpaces, wordsOf_space_cons, wordsOf_append_space,
    wordsOf_intercalate fun _ => isWord_of_mem_wordsOf]

/-- A compressed text is determined by the words it comes from, and determines them. -/
theorem compressSpaces_eq_compressSpaces_iff {xs ys : List Char} :
    compressSpaces xs = compressSpaces ys ↔ wordsOf xs = wordsOf ys := by
  constructor
  · intro h
    rw [← wordsOf_compressSpaces, h, wordsOf_compressSpaces]
  · intro h
    rw [compressSpaces, h, ← compressSpaces]

/-! ### Spaces in a row -/

/-- Where only spaces stand between two other characters, there are none or two of them. -/
def IsSpacedByTwo (cs : List Char) : Prop :=
  ∀ a b n, a ≠ ' ' → b ≠ ' ' → a :: (List.replicate n ' ' ++ [b]) <:+: cs → n = 0 ∨ n = 2

/-- The spaces of the text are compressed: there is one at each end, and between its words there are
two. -/
structure IsCompressed (cs : List Char) : Prop where
  /-- One space at the start and one at the end, with no other next to it. -/
  ends : ∃ inner, cs = ' ' :: (inner ++ [' ']) ∧ ¬[' '] <+: inner ∧ ¬[' '] <:+ inner
  /-- Two spaces wherever there are some between other characters. -/
  between : IsSpacedByTwo cs

section Rows

variable {b c : Char} {cs xs ys : List Char}

/-- How many spaces stand in front of another character. -/
theorem eq_of_prefix_replicate_append {m n : Nat} (hb : b ≠ ' ') (hc : c ≠ ' ')
    (h : List.replicate n ' ' ++ [b] <+: List.replicate m ' ' ++ c :: cs) : n = m := by
  induction n generalizing m with
  | zero =>
    cases m with
    | zero => rfl
    | succ m => exact absurd (List.cons_prefix_cons.1 h).1 hb
  | succ n ih =>
    cases m with
    | zero => exact absurd (List.cons_prefix_cons.1 h).1 hc.symm
    | succ m => rw [ih (List.cons_prefix_cons.1 h).2]

/-- A text that does not end with a space is empty, or it has another character behind the spaces
that it begins with. -/
theorem eq_nil_or_exists_replicate (h : ¬[' '] <:+ cs) :
    cs = [] ∨ ∃ m c ds, c ≠ ' ' ∧ cs = List.replicate m ' ' ++ c :: ds := by
  induction cs with
  | nil => exact .inl rfl
  | cons d cs ih =>
    right
    by_cases hd : d = ' '
    · subst hd
      obtain rfl | ⟨m, c, ds, hc, rfl⟩ := ih fun hcs => h (hcs.trans (List.suffix_cons ..))
      · exact absurd List.suffix_rfl h
      · exact ⟨m + 1, c, ds, hc, rfl⟩
    · exact ⟨0, d, cs, hd, rfl⟩

theorem IsSpacedByTwo.of_isInfix (h : IsSpacedByTwo ys) (hwithin : xs <:+: ys) : IsSpacedByTwo xs :=
  fun a b n ha hb hab => h a b n ha hb (hab.trans hwithin)

theorem isSpacedByTwo_cons_iff :
    IsSpacedByTwo (c :: cs) ↔ IsSpacedByTwo cs ∧
      (c ≠ ' ' → ∀ b n, b ≠ ' ' → List.replicate n ' ' ++ [b] <+: cs → n = 0 ∨ n = 2) := by
  constructor
  · intro h
    exact ⟨h.of_isInfix (List.suffix_cons ..).isInfix, fun hc b n hb hrow =>
      h c b n hc hb (List.cons_prefix_cons.2 ⟨rfl, hrow⟩).isInfix⟩
  · rintro ⟨hcs, hrow⟩ a b n ha hb hwithin
    rcases List.infix_cons_iff.1 hwithin with hfirst | hwithin
    · obtain ⟨rfl, hbehind⟩ := List.cons_prefix_cons.1 hfirst
      exact hrow ha b n hb hbehind
    · exact hcs a b n ha hb hwithin

theorem IsSpacedByTwo.space_cons (h : IsSpacedByTwo cs) : IsSpacedByTwo (' ' :: cs) :=
  isSpacedByTwo_cons_iff.2 ⟨h, fun hspace => absurd rfl hspace⟩

theorem IsSpacedByTwo.append_space (h : IsSpacedByTwo cs) : IsSpacedByTwo (cs ++ [' ']) := by
  intro a b n ha hb hwithin
  rcases List.infix_concat_iff.1 hwithin with hsuffix | hwithin
  · rcases List.suffix_concat_iff.1 hsuffix with hnil | ⟨front, hfront, -⟩
    · exact absurd hnil (List.cons_ne_nil a _)
    · rw [← List.cons_append] at hfront
      exact absurd (List.singleton_inj.1 (List.append_inj_right' hfront rfl)) hb
  · exact h a b n ha hb hwithin

theorem IsWord.isSpacedByTwo {word : List Char} (h : IsWord word) : IsSpacedByTwo word := by
  intro a b n _ _ hwithin
  cases n with
  | zero => exact .inl rfl
  | succ n => exact absurd (hwithin.mem (by simp [List.replicate_succ])) h.2

/-- Two spaces stand between what is spaced by two and a word in front of it. -/
theorem IsSpacedByTwo.word_append {word : List Char} (hword : ' ' ∉ word) (hc : c ≠ ' ')
    (h : IsSpacedByTwo (c :: cs)) : IsSpacedByTwo (word ++ ' ' :: ' ' :: c :: cs) := by
  induction word with
  | nil => exact h.space_cons.space_cons
  | cons d word ih =>
    obtain ⟨-, hword⟩ := not_or.1 (mt List.mem_cons.2 hword)
    refine isSpacedByTwo_cons_iff.2 ⟨ih hword, fun _ b n hb hrow => ?_⟩
    -- Only behind the last character of the word do spaces follow.
    cases word with
    | nil => exact .inr (eq_of_prefix_replicate_append (m := 2) hb hc hrow)
    | cons e word =>
      obtain ⟨he, -⟩ := not_or.1 (mt List.mem_cons.2 hword)
      exact .inl (eq_of_prefix_replicate_append (m := 0) hb (Ne.symm he) hrow)

theorem isSpacedByTwo_intercalate {words : List (List Char)} (h : ∀ word ∈ words, IsWord word) :
    IsSpacedByTwo ([' ', ' '].intercalate words) := by
  induction words with
  | nil => exact fun a b n _ _ hwithin => absurd (List.infix_nil.1 hwithin) (List.cons_ne_nil a _)
  | cons word words ih =>
    obtain ⟨hword, hwords⟩ := List.forall_mem_cons.1 h
    cases words with
    | nil =>
      rw [List.intercalate_singleton]
      exact hword.isSpacedByTwo
    | cons next words =>
      obtain ⟨c, cs, hc, hcs⟩ := exists_intercalate_cons_eq (hwords next List.mem_cons_self) words
      have hrest := ih hwords
      rw [intercalate_spaces_cons_cons]
      rw [hcs] at hrest ⊢
      exact hrest.word_append hword.2 hc

/-- A text that is spaced by two, with no spaces at its ends, is a word or has two spaces behind its
first word. -/
theorem IsSpacedByTwo.word_cases (h : IsSpacedByTwo cs) (hstart : ¬[' '] <+: cs)
    (hend : ¬[' '] <:+ cs) :
    cs = [] ∨ IsWord cs ∨
      ∃ word c ds, IsWord word ∧ c ≠ ' ' ∧ cs = word ++ ' ' :: ' ' :: c :: ds := by
  by_cases hspace : ' ' ∈ cs
  · obtain ⟨word, rest, rfl, hword⟩ := List.eq_append_cons_of_mem hspace
    have hne : word ≠ [] := by
      rintro rfl
      exact hstart (List.prefix_append ..)
    obtain ⟨front, a, hfront⟩ := (List.eq_nil_or_concat word).resolve_left hne
    have ha : a ≠ ' ' := by
      rintro rfl
      exact hword (by simp [hfront])
    have hrest : ¬[' '] <:+ rest := fun hrest =>
      hend (hrest.trans ((List.suffix_cons ..).trans (List.suffix_append ..)))
    obtain rfl | ⟨m, c, ds, hc, rfl⟩ := eq_nil_or_exists_replicate hrest
    · exact absurd (List.suffix_append ..) hend
    · have hrow := h a c (m + 1) ha hc ⟨front, ds, by simp [hfront, List.replicate_succ]⟩
      obtain rfl : m = 1 := by omega
      exact .inr (.inr ⟨word, c, ds, ⟨hne, hword⟩, hc, rfl⟩)
  · by_cases hcs : cs = []
    · exact .inl hcs
    · exact .inr (.inl ⟨hcs, hspace⟩)

/-- Such a text is put together from words. -/
theorem IsSpacedByTwo.exists_words (h : IsSpacedByTwo cs) (hstart : ¬[' '] <+: cs)
    (hend : ¬[' '] <:+ cs) :
    ∃ words, (∀ word ∈ words, IsWord word) ∧ [' ', ' '].intercalate words = cs := by
  -- The induction goes from word to word, since within a row of spaces the rest begins with a space.
  induction hlength : cs.length using Nat.strong_induction_on generalizing cs with
  | h length ih =>
    obtain rfl | hcs | ⟨word, c, ds, hword, hc, rfl⟩ := h.word_cases hstart hend
    · exact ⟨[], List.forall_mem_nil _, rfl⟩
    · exact ⟨[cs], List.forall_mem_singleton.2 hcs, List.intercalate_singleton⟩
    · have hsuffix : c :: ds <:+ word ++ ' ' :: ' ' :: c :: ds := ⟨word ++ [' ', ' '], by simp⟩
      obtain ⟨words, hwords, hrest⟩ := ih (c :: ds).length (by simp [← hlength]; omega)
        (h.of_isInfix hsuffix.isInfix) (fun hfirst => hc (List.cons_prefix_cons.1 hfirst).1.symm)
        (fun hspace => hend (hspace.trans hsuffix)) rfl
      cases words with
      | nil => cases hrest
      | cons next words =>
        refine ⟨word :: next :: words, List.forall_mem_cons.2 ⟨hword, hwords⟩, ?_⟩
        rw [intercalate_spaces_cons_cons, hrest]

end Rows

/-! ### Compressed texts -/

theorem isCompressed_iff {cs : List Char} :
    IsCompressed cs ↔ ∃ words, (∀ word ∈ words, IsWord word) ∧
      cs = ' ' :: ([' ', ' '].intercalate words ++ [' ']) := by
  constructor
  · rintro ⟨⟨inner, rfl, hstart, hend⟩, hbetween⟩
    have hinner : inner <:+: ' ' :: (inner ++ [' ']) := ⟨[' '], [' '], rfl⟩
    obtain ⟨words, hwords, rfl⟩ := (hbetween.of_isInfix hinner).exists_words hstart hend
    exact ⟨words, hwords, rfl⟩
  · rintro ⟨words, hwords, rfl⟩
    have hstart : ¬[' '] <+: [' ', ' '].intercalate words := by
      cases words with
      | nil => simp
      | cons word words =>
        obtain ⟨c, cs, hc, hcs⟩ := exists_intercalate_cons_eq (hwords word List.mem_cons_self) words
        rw [hcs]
        exact fun hfirst => hc (List.cons_prefix_cons.1 hfirst).1.symm
    exact ⟨⟨_, rfl, hstart, not_space_suffix_intercalate hwords⟩,
      (isSpacedByTwo_intercalate hwords).append_space.space_cons⟩

theorem isCompressed_compressSpaces (cs : List Char) : IsCompressed (compressSpaces cs) :=
  isCompressed_iff.2 ⟨wordsOf cs, fun _ => isWord_of_mem_wordsOf, rfl⟩

theorem IsCompressed.compressSpaces_eq {cs : List Char} (h : IsCompressed cs) :
    compressSpaces cs = cs := by
  obtain ⟨words, hwords, rfl⟩ := isCompressed_iff.1 h
  rw [compressSpaces, wordsOf_space_cons, wordsOf_append_space, wordsOf_intercalate hwords]

/-- Compressing the spaces of a text gives the canonical form of its words. Two texts have the same
form exactly if they have the same words, a form is its own form, and the form of a text is the one
text with its words in which the spaces are compressed. -/
theorem compressSpaces_canonical (xs ys : List Char) :
    (compressSpaces xs = compressSpaces ys ↔ wordsOf xs = wordsOf ys) ∧
      compressSpaces (compressSpaces xs) = compressSpaces xs ∧
      (compressSpaces xs = ys ↔ IsCompressed ys ∧ wordsOf ys = wordsOf xs) := by
  refine ⟨compressSpaces_eq_compressSpaces_iff, (isCompressed_compressSpaces xs).compressSpaces_eq,
    ?_, ?_⟩
  · rintro rfl
    exact ⟨isCompressed_compressSpaces xs, wordsOf_compressSpaces xs⟩
  · rintro ⟨hys, hwords⟩
    rw [← hys.compressSpaces_eq, compressSpaces_eq_compressSpaces_iff, hwords]

/-- Spaces at the ends and rows of several lengths. -/
example : compressSpaces "  Test   User 0 ".toList = " Test  User  0 ".toList := by decide

end GridAuthz.Text
