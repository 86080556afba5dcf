import GridAuthz.Proofs.Text.Attachment

/-!
# Preparing prepared texts

A prepared text is prepared word by word again (`preparedWords_prepareChars`), and each word becomes
one word. So preparing it changes nothing exactly if no word changes by being normalized and folded
(`prepareChars_prepareChars_eq_iff`), which is so at least where no character folds next to one that
combines with it (`prepareChars_prepareChars_of_foldsApart`). A word can change, but only once: what
is prepared twice stays as it is (`prepareChars_prepareChars_prepareChars`).
-/

namespace GridAuthz.Text

/-- The text, normalized and folded. -/
def normalizeAndFold (cs : List Char) : List Char := foldCase (nfkc cs)

/-- Normalizing and folding twice is as good as doing it more often. -/
theorem normalizeAndFold_three (cs : List Char) :
    normalizeAndFold (normalizeAndFold (normalizeAndFold cs)) =
      normalizeAndFold (normalizeAndFold cs) :=
  congrArg foldCase (nfkc_foldCase_of_isFolded (isFolded_of_mem_foldCase_nfkc cs))

/-! ### Words -/

theorem preparedWords_of_isPlain {cs : List Char} (h : ∀ c ∈ cs, IsPlain c) :
    preparedWords cs = wordsOf (normalizeAndFold cs) := by
  rw [preparedWords, filterMap_mapCharacter?_of_isPlain h]
  rfl

/-- A text is prepared piece by piece between white space. -/
theorem preparedWords_intercalate {separator : List Char} (hne : separator ≠ [])
    (hseparator : ∀ c ∈ separator, isWhitespace c = true) (pieces : List (List Char)) :
    preparedWords (separator.intercalate pieces) = pieces.flatMap preparedWords := by
  induction pieces with
  | nil => rfl
  | cons piece pieces ih =>
    cases pieces with
    | nil => simp
    | cons next pieces =>
      rw [List.intercalate_cons_cons, List.append_assoc,
        preparedWords_append_of_ne_nil hseparator hne, ih, List.flatMap_cons (x := piece)]

/-- Only the words of a text are prepared. -/
theorem flatMap_preparedWords_wordsOf (cs : List Char) :
    (wordsOf cs).flatMap preparedWords = preparedWords cs := by
  have hfilter : ∀ pieces : List (List Char),
      (pieces.filter fun word => !word.isEmpty).flatMap preparedWords =
        pieces.flatMap preparedWords := by
    intro pieces
    induction pieces with
    | nil => rfl
    | cons piece pieces ih => cases piece <;> simp [ih]
  have hspace : ∀ c ∈ [' '], isWhitespace c = true := List.forall_mem_singleton.2 rfl
  rw [wordsOf, hfilter, ← preparedWords_intercalate (List.cons_ne_nil ' ' []) hspace,
    List.intercalate_splitOn]

/-- A prepared text is prepared word by word. -/
theorem preparedWords_prepareChars (cs : List Char) :
    preparedWords (prepareChars cs) = (preparedWords cs).flatMap preparedWords := by
  have hspace : ∀ c ∈ [' '], isWhitespace c = true := List.forall_mem_singleton.2 rfl
  have hspaces : ∀ c ∈ [' ', ' '], isWhitespace c = true := List.forall_mem_cons.2 ⟨rfl, hspace⟩
  rw [prepareChars_eq, ← List.singleton_append, preparedWords_whitespace_append hspace,
    preparedWords_append_whitespace hspace,
    preparedWords_intercalate (List.cons_ne_nil ' ' [' ']) hspaces]

/-- A prepared text is determined by its words. -/
theorem prepareChars_eq_iff {xs ys : List Char} :
    prepareChars xs = prepareChars ys ↔ preparedWords xs = preparedWords ys :=
  compressSpaces_eq_compressSpaces_iff

/-- The text as it is before its spaces are compressed. -/
theorem preparedWords_eq (cs : List Char) :
    preparedWords cs = wordsOf (normalizeAndFold (cs.filterMap mapCharacter?)) := rfl

theorem preparedWords_prepareChars_eq (cs : List Char) : preparedWords (prepareChars cs) =
    wordsOf (normalizeAndFold (normalizeAndFold (cs.filterMap mapCharacter?))) := by
  rw [preparedWords_prepareChars, preparedWords_eq cs, flatMap_preparedWords_wordsOf]
  exact preparedWords_of_isPlain (isPlain_of_mem_foldCase_nfkc isPlain_of_mem_filterMap)

/-- What is prepared twice stays as it is. -/
theorem prepareChars_prepareChars_prepareChars (cs : List Char) :
    prepareChars (prepareChars (prepareChars cs)) = prepareChars (prepareChars cs) := by
  have hplain : ∀ c ∈ normalizeAndFold (normalizeAndFold (cs.filterMap mapCharacter?)), IsPlain c :=
    isPlain_of_mem_foldCase_nfkc (isPlain_of_mem_foldCase_nfkc isPlain_of_mem_filterMap)
  have hwords : preparedWords (prepareChars (prepareChars cs)) =
      preparedWords (prepareChars cs) := by
    rw [preparedWords_prepareChars, preparedWords_prepareChars_eq, flatMap_preparedWords_wordsOf,
      preparedWords_of_isPlain hplain, normalizeAndFold_three]
  exact prepareChars_eq_iff.2 hwords

/-! ### When nothing changes -/

/-- A prepared word becomes one word by being prepared. -/
theorem preparedWords_of_mem_preparedWords {cs word : List Char} (h : word ∈ preparedWords cs) :
    preparedWords word = [normalizeAndFold word] := by
  obtain ⟨hne, hplain⟩ := mem_preparedWords h
  have hspaces : ∀ c ∈ word, HasOwnSpaces c := fun c hc =>
    hasOwnSpaces_of_mem_foldCase_nfkc c (subset_of_mem_splitOn (List.mem_of_mem_filter h) hc)
  rw [preparedWords_of_isPlain fun c hc => isPlain_iff.2 (.inr (hplain c hc))]
  exact wordsOf_of_isWord ⟨foldCase_nfkc_ne_nil hne,
    space_notMem_foldCase_nfkc hspaces (isWord_of_mem_wordsOf h).2⟩

/-- Preparing a prepared text changes nothing exactly if none of its words changes by being
normalized and folded. -/
theorem prepareChars_prepareChars_eq_iff {cs : List Char} :
    prepareChars (prepareChars cs) = prepareChars cs ↔
      ∀ word ∈ preparedWords cs, normalizeAndFold word = word := by
  have hmap : preparedWords (prepareChars cs) = (preparedWords cs).map normalizeAndFold := by
    rw [preparedWords_prepareChars, List.map_eq_flatMap]
    exact List.flatMap_congr fun word hword => preparedWords_of_mem_preparedWords hword
  rw [prepareChars_eq_iff, hmap]
  constructor
  · intro h word hword
    exact List.map_inj_left.1 (h.trans (List.map_id _).symm) word hword
  · intro h
    exact (List.map_congr_left h).trans (List.map_id _)

/-- Preparing a prepared text changes nothing if in the normal form of the text no character folds
next to one that combines with it. -/
theorem prepareChars_prepareChars_of_foldsApart {cs : List Char}
    (h : FoldsApart (nfkc (cs.filterMap mapCharacter?))) :
    prepareChars (prepareChars cs) = prepareChars cs := by
  rw [prepareChars_eq_iff, preparedWords_prepareChars_eq, preparedWords_eq, normalizeAndFold,
    normalizeAndFold, foldCase_nfkc_foldCase (nfkc_nfkc _) h]

end GridAuthz.Text
