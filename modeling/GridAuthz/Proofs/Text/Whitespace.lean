import Mathlib.Data.List.Basic
import GridAuthz.Proofs.Text.Normalization
import GridAuthz.Proofs.Text.Preparation

/-!
# White space does not count

Mapping leaves no white space but plain spaces, and the steps behind it bring none back, nor an
ignorable character: the tables of decomposition, composition and folding hold none
(`isPlain_of_mem_decompose`, `isPlain_of_composePair?`, `isPlain_of_mem_foldCase`). So the words of a
prepared text hold no white space at all, what stands between them is made of two spaces, and any
white space in the text is as good as any other (`prepare_whitespace`).
-/

namespace GridAuthz.Text

/-! ### Plain characters -/

/-- Mapping leaves the character as it is: it is a space, or neither white space nor ignorable. -/
def IsPlain (c : Char) : Prop := mapCharacter? c = some c

theorem isPlain_iff {c : Char} :
    IsPlain c ↔ c = ' ' ∨ isWhitespace c = false ∧ isIgnorable c = false := by
  rw [IsPlain, mapCharacter?]
  split_ifs with hspace hignorable
  · have hiff : ' ' = c ↔ c = ' ' := eq_comm
    simp [hspace, hiff]
  · have hne : c ≠ ' ' := by
      rintro rfl
      exact hspace rfl
    simp [hignorable, hne]
  · simp [hspace, hignorable]

/-- What mapping gives is plain. -/
theorem isPlain_of_mapCharacter? {c d : Char} (h : mapCharacter? c = some d) : IsPlain d := by
  rw [mapCharacter?] at h
  split_ifs at h with hspace hignorable
  · cases h
    exact rfl
  · cases h
    exact isPlain_iff.2 (.inr ⟨by simpa using hspace, by simpa using hignorable⟩)

theorem isPlain_of_mem_filterMap {cs : List Char} :
    ∀ c ∈ cs.filterMap mapCharacter?, IsPlain c := by
  intro c hc
  obtain ⟨_, -, hmap⟩ := List.mem_filterMap.1 hc
  exact isPlain_of_mapCharacter? hmap

theorem filterMap_mapCharacter?_of_isPlain {cs : List Char} (h : ∀ c ∈ cs, IsPlain c) :
    cs.filterMap mapCharacter? = cs := by
  rw [List.filterMap_congr h, List.filterMap_some]

/-! ### Plain code points -/

/-- The ranges of white space. -/
def whitespaceRanges : List (Nat × Nat) := [
  (0x9, 0xD), (0x20, 0x20), (0x85, 0x85), (0xA0, 0xA0), (0x1680, 0x1680), (0x2000, 0x200A),
  (0x2028, 0x2029), (0x202F, 0x202F), (0x205F, 0x205F), (0x3000, 0x3000)]

theorem isWhitespace_eq (c : Char) : isWhitespace c =
    whitespaceRanges.any fun range => range.1 ≤ c.toNat && c.toNat ≤ range.2 := by
  rw [Bool.eq_iff_iff]
  simp only [isWhitespace, whitespaceRanges, List.any_cons, List.any_nil, Bool.or_eq_true,
    Bool.and_eq_true, decide_eq_true_eq, beq_iff_eq, Bool.or_false]
  omega

/-- The code points in front of the language tags that belong to no character, to white space or to
an ignorable character. -/
def unplain : Nat :=
  bitsOf ((0xD800, 0xDFFF) ::
    (whitespaceRanges ++ ignorableRanges.filter fun range => range.2 < 0xE0000))

/-- The code point belongs to a plain character. Language tags are left out. -/
def isPlainCode (n : Nat) : Bool := n == 0x20 || Nat.blt n 0xE0000 && !unplain.testBit n

theorem isPlainCode_cases {n : Nat} (h : isPlainCode n = true) : n = 0x20 ∨ n.isValidChar ∧
    (∀ range ∈ whitespaceRanges, ¬(range.1 ≤ n ∧ n ≤ range.2)) ∧
      ∀ range ∈ ignorableRanges, ¬(range.1 ≤ n ∧ n ≤ range.2) := by
  simp only [isPlainCode, Bool.or_eq_true, beq_iff_eq, Bool.and_eq_true, Nat.blt_eq,
    Bool.not_eq_true', unplain, testBit_bitsOf_eq_false_iff, List.forall_mem_cons,
    List.forall_mem_append] at h
  refine h.imp_right fun ⟨hlt, hsurrogate, hwhitespace, hignorable⟩ => ⟨?_, hwhitespace, ?_⟩
  · rw [Nat.isValidChar]
    omega
  · intro range hrange hn
    have htags : ∀ range ∈ ignorableRanges, range.2 < 0xE0000 ∨ 0xE0000 ≤ range.1 := by decide
    rcases htags range hrange with hlow | hhigh
    · exact hignorable range (List.mem_filter.2 ⟨hrange, by simpa using hlow⟩) hn
    · omega

theorem toNat_ofNat_of_isPlainCode {n : Nat} (h : isPlainCode n = true) :
    (Char.ofNat n).toNat = n := by
  rcases isPlainCode_cases h with rfl | ⟨hvalid, -⟩
  · rfl
  · rw [Char.ofNat, dif_pos hvalid]
    rfl

theorem isPlain_of_isPlainCode {n : Nat} (h : isPlainCode n = true) : IsPlain (Char.ofNat n) := by
  have hn := toNat_ofNat_of_isPlainCode h
  rw [isPlain_iff]
  rcases isPlainCode_cases h with rfl | ⟨-, hwhitespace, hignorable⟩
  · exact .inl rfl
  · refine .inr ⟨?_, ?_⟩
    · rw [isWhitespace_eq, hn, List.any_eq_false]
      intro range hrange hmem
      exact hwhitespace range hrange (by simpa using hmem)
    · rw [isIgnorable, hn, List.any_eq_false]
      intro range hrange hmem
      exact hignorable range hrange (by simpa using hmem)

/-! ### The tables hold plain characters only -/

theorem isPlainCode_of_decompositionEntries :
    (decompositionEntries.all fun entry => entry.1.all isPlainCode) = true := by decide +kernel

theorem isPlainCode_of_compositionEntries :
    (compositionEntries.all fun entry => isPlainCode entry.2.2) = true := by decide +kernel

theorem isPlainCode_of_foldingEntries :
    (foldingEntries.all fun entry => entry.2.all isPlainCode) = true := by decide +kernel

/-- A stretch of code points that none of the ranges reaches into is plain. -/
theorem isPlainCode_of_mem (first last : Nat) {n : Nat} (hlast : last < 0xE0000)
    (h : ∀ range ∈ (0xD800, 0xDFFF) :: (whitespaceRanges ++ ignorableRanges),
      range.2 < first ∨ last < range.1) (hn : first ≤ n ∧ n ≤ last) : isPlainCode n = true := by
  rw [isPlainCode, Bool.or_eq_true, Bool.and_eq_true, Nat.blt_eq, Bool.not_eq_true', unplain,
    testBit_bitsOf_eq_false_iff]
  refine .inr ⟨by omega, fun range hrange hmem => ?_⟩
  have hrange' : range ∈ (0xD800, 0xDFFF) :: (whitespaceRanges ++ ignorableRanges) := by
    rcases List.mem_cons.1 hrange with rfl | hrange
    · exact List.mem_cons_self
    · refine List.mem_cons_of_mem _ (List.mem_append.2 ?_)
      exact (List.mem_append.1 hrange).imp_right List.mem_of_mem_filter
  rcases h range hrange' with hbelow | habove <;> omega

/-- The syllables are the code points of one stretch. -/
theorem isSyllable_iff {n : Nat} :
    (∃ index < Hangul.syllableCount, n = Hangul.syllableBase + index) ↔
      0xAC00 ≤ n ∧ n ≤ 0xD7A3 := by
  rw [Hangul.syllableBase, Hangul.syllableCount, Hangul.leadCount, Hangul.vowelCount,
    Hangul.trailCount]
  constructor
  · rintro ⟨index, hindex, rfl⟩
    omega
  · intro h
    exact ⟨n - 0xAC00, by omega, by omega⟩

theorem bounds_of_mem_lettersOf {index n : Nat} (hindex : index < Hangul.syllableCount)
    (h : n ∈ Hangul.lettersOf index) : 0x1100 ≤ n ∧ n ≤ 0x11FF := by
  rw [Hangul.lettersOf] at h
  split_ifs at h <;>
    simp only [Hangul.syllableCount, Hangul.leadBase, Hangul.vowelBase, Hangul.trailBase,
      Hangul.leadCount, Hangul.vowelCount, Hangul.trailCount, List.mem_cons, List.not_mem_nil,
      or_false] at hindex h <;>
    omega

theorem isPlainCode_of_mem_lettersOf {index n : Nat} (hindex : index < Hangul.syllableCount)
    (h : n ∈ Hangul.lettersOf index) : isPlainCode n = true :=
  isPlainCode_of_mem 0x1100 0x11FF (by decide) (by decide) (bounds_of_mem_lettersOf hindex h)

theorem bounds_of_compose? {a b n : Nat} (h : Hangul.compose? a b = some n) :
    0xAC00 ≤ n ∧ n ≤ 0xD7A3 := by
  rw [Hangul.compose?] at h
  split_ifs at h with hlead htrail
  · simp only [Hangul.leadBase, Hangul.vowelBase, Hangul.leadCount, Hangul.vowelCount,
      Hangul.syllableBase, Hangul.trailCount, Option.some.injEq] at hlead h
    omega
  · simp only [Hangul.syllableBase, Hangul.syllableCount, Hangul.trailBase, Hangul.leadCount,
      Hangul.vowelCount, Hangul.trailCount, Option.some.injEq] at htrail h
    omega

theorem isPlainCode_of_compose? {a b n : Nat} (h : Hangul.compose? a b = some n) :
    isPlainCode n = true :=
  isPlainCode_of_mem 0xAC00 0xD7A3 (by decide) (by decide) (bounds_of_compose? h)

/-- Two characters compose to a syllable, or an entry says what they compose to. -/
theorem compose?_or_mem_of_composePair? {a b c : Char} (h : composePair? a b = some c) :
    Hangul.compose? a.toNat b.toNat = some c.toNat ∨
      (a.toNat, b.toNat, c.toNat) ∈ compositionEntries := by
  rcases composePair?_cases h with ⟨n, hn, rfl⟩ | ⟨n, hentry, rfl⟩
  · rw [toNat_ofNat_of_isPlainCode (isPlainCode_of_compose? hn)]
    exact .inl hn
  · have hplain := List.all_eq_true.1 isPlainCode_of_compositionEntries _ hentry
    rw [toNat_ofNat_of_isPlainCode hplain]
    exact .inr hentry

/-! ### No step brings white space back -/

theorem isPlain_of_mem_decompose {c d : Char} (hc : IsPlain c) (h : d ∈ decompose c) :
    IsPlain d := by
  obtain ⟨n, hn, rfl⟩ := List.mem_map.1 h
  rcases decomposeCodePoint_cases c.toNat with hself | ⟨index, hindex, -, hletters⟩ | hentry
  · rw [hself, List.mem_singleton] at hn
    rwa [hn, Char.ofNat_toNat]
  · rw [hletters] at hn
    exact isPlain_of_isPlainCode (isPlainCode_of_mem_lettersOf hindex hn)
  · have hall := List.all_eq_true.1 isPlainCode_of_decompositionEntries _ hentry
    exact isPlain_of_isPlainCode (List.all_eq_true.1 hall n hn)

theorem isPlain_of_composePair? {a b c : Char} (h : composePair? a b = some c) : IsPlain c := by
  rcases composePair?_cases h with ⟨n, hn, rfl⟩ | ⟨n, hentry, rfl⟩
  · exact isPlain_of_isPlainCode (isPlainCode_of_compose? hn)
  · exact isPlain_of_isPlainCode (List.all_eq_true.1 isPlainCode_of_compositionEntries _ hentry)

theorem isPlain_of_mem_foldCase {cs : List Char} (hcs : ∀ c ∈ cs, IsPlain c) :
    ∀ d ∈ foldCase cs, IsPlain d := by
  intro d hd
  obtain ⟨c, hc, hd⟩ := List.mem_flatMap.1 hd
  obtain ⟨n, hn, rfl⟩ := List.mem_map.1 hd
  rcases foldCodePoint_cases c.toNat with ⟨-, hself⟩ | hentry
  · rw [hself, List.mem_singleton] at hn
    rw [hn, Char.ofNat_toNat]
    exact hcs c hc
  · have hall := List.all_eq_true.1 isPlainCode_of_foldingEntries _ hentry
    exact isPlain_of_isPlainCode (List.all_eq_true.1 hall n hn)

/-- Normalization and folding leave plain characters plain. -/
theorem isPlain_of_mem_foldCase_nfkc {cs : List Char} (hcs : ∀ c ∈ cs, IsPlain c) :
    ∀ d ∈ foldCase (nfkc cs), IsPlain d :=
  isPlain_of_mem_foldCase <| forall_mem_nfkc (fun _ _ _ h _ _ => isPlain_of_composePair? h)
    fun c hc _ hd => isPlain_of_mem_decompose (hcs c hc) hd

/-! ### Words -/

/-- A prepared word is not empty, and it holds no white space and no ignorable character. -/
theorem mem_preparedWords {cs word : List Char} (h : word ∈ preparedWords cs) :
    word ≠ [] ∧ ∀ c ∈ word, isWhitespace c = false ∧ isIgnorable c = false := by
  obtain ⟨hne, hspace⟩ := isWord_of_mem_wordsOf h
  refine ⟨hne, fun c hc => ?_⟩
  have hmem : c ∈ foldCase (nfkc (cs.filterMap mapCharacter?)) :=
    subset_of_mem_splitOn (List.mem_of_mem_filter h) hc
  have hplain := isPlain_of_mem_foldCase_nfkc isPlain_of_mem_filterMap c hmem
  have hother : c ≠ ' ' := by
    rintro rfl
    exact hspace hc
  exact (isPlain_iff.1 hplain).resolve_left hother

/-- White space and ignorable characters make no words. -/
theorem preparedWords_eq_nil {cs : List Char}
    (h : ∀ c ∈ cs, isWhitespace c = true ∨ isIgnorable c = true) : preparedWords cs = [] := by
  induction cs with
  | nil => rfl
  | cons c cs ih =>
    obtain ⟨hc, hcs⟩ := List.forall_mem_cons.1 h
    by_cases hspace : isWhitespace c = true
    · rw [preparedWords_whitespace_cons hspace, ih hcs]
    · have hnone : mapCharacter? c = none := by
        rw [mapCharacter?, if_neg hspace, if_pos (hc.resolve_left hspace)]
      rw [preparedWords, List.filterMap_cons_none hnone]
      exact ih hcs

section

variable {u v : List Char} (hu : ∀ c ∈ u, isWhitespace c = true)
include hu

theorem preparedWords_whitespace_append (cs : List Char) :
    preparedWords (u ++ cs) = preparedWords cs := by
  induction u with
  | nil => rfl
  | cons c u ih =>
    obtain ⟨hc, hu⟩ := List.forall_mem_cons.1 hu
    rw [List.cons_append, preparedWords_whitespace_cons hc, ih hu]

/-- Any white space parts the words on its two sides, in whatever amount. -/
theorem preparedWords_append_of_ne_nil (hne : u ≠ []) (xs ys : List Char) :
    preparedWords (xs ++ (u ++ ys)) = preparedWords xs ++ preparedWords ys := by
  obtain ⟨c, u, rfl⟩ := List.exists_cons_of_ne_nil hne
  obtain ⟨hc, hu⟩ := List.forall_mem_cons.1 hu
  rw [List.cons_append, preparedWords_append_whitespace_append hc,
    preparedWords_whitespace_append hu]

end

/-! ### What counts -/

/-- White space does not count in a prepared text. Any two amounts of it make no difference between
two texts, and at the ends of a text it is as good as none. The prepared form stands between one
space at each end and has two spaces between its words, which hold no white space; where there is
nothing but white space and ignorable characters, it is made of the two spaces at the ends. -/
theorem prepare_whitespace (a b u v : String) (hne : u ≠ "") (hne' : v ≠ "")
    (hu : ∀ c ∈ u.toList, isWhitespace c = true) (hv : ∀ c ∈ v.toList, isWhitespace c = true) :
    prepare (a ++ u ++ b) = prepare (a ++ v ++ b) ∧ prepare (u ++ a) = prepare a ∧
      prepare (a ++ u) = prepare a ∧
      (∃ words : List (List Char),
        (∀ word ∈ words, word ≠ [] ∧ ∀ c ∈ word, isWhitespace c = false) ∧
          (prepare a).toList = ' ' :: ([' ', ' '].intercalate words ++ [' '])) ∧
      ((∀ c ∈ a.toList, isWhitespace c = true ∨ isIgnorable c = true) → prepare a = "  ") := by
  have hnil : u.toList ≠ [] := fun h => hne (String.toList_eq_nil_iff.1 h)
  have hnil' : v.toList ≠ [] := fun h => hne' (String.toList_eq_nil_iff.1 h)
  refine ⟨?_, ?_, ?_, ⟨preparedWords a.toList, ?_, ?_⟩, fun hblank => ?_⟩
  · simp only [prepare, prepareChars_eq, String.toList_append, List.append_assoc,
      preparedWords_append_of_ne_nil hu hnil, preparedWords_append_of_ne_nil hv hnil']
  · rw [prepare, prepare, prepareChars_eq, prepareChars_eq, String.toList_append,
      preparedWords_whitespace_append hu]
  · rw [prepare, prepare, prepareChars_eq, prepareChars_eq, String.toList_append,
      preparedWords_append_whitespace hu]
  · intro word hword
    obtain ⟨hword, hplain⟩ := mem_preparedWords hword
    exact ⟨hword, fun c hc => (hplain c hc).1⟩
  · rw [prepare, String.toList_ofList, prepareChars_eq]
  · rw [prepare, prepareChars_eq, preparedWords_eq_nil hblank]
    rfl

/-- A no-break space and a line break between two words, with a mark at the beginning of the second
one. -/
theorem prepare_whitespace_sample :
    prepare ("grid" ++ "\u00A0" ++ "\u0301user") = prepare ("grid" ++ "\n\t" ++ "\u0301user") ∧
      prepare ("\n\t" ++ "grid") = prepare "grid" ∧ prepare "\u00AD\u2003" = "  " := by
  have hnobreak : "\u00A0".toList.all isWhitespace = true := by decide +kernel
  have hbreak : "\n\t".toList.all isWhitespace = true := by decide +kernel
  have hblank : ("\u00AD\u2003".toList.all fun c => isWhitespace c || isIgnorable c) = true := by
    decide +kernel
  rw [List.all_eq_true] at hnobreak hbreak hblank
  simp only [Bool.or_eq_true] at hblank
  obtain ⟨hexchange, -⟩ := prepare_whitespace "grid" "\u0301user" "\u00A0" "\n\t" (by decide)
    (by decide) hnobreak hbreak
  obtain ⟨-, hfront, -⟩ := prepare_whitespace "grid" "" "\n\t" "\u00A0" (by decide) (by decide)
    hbreak hnobreak
  obtain ⟨-, -, -, -, hignored⟩ := prepare_whitespace "\u00AD\u2003" "" "\n\t" "\u00A0" (by decide)
    (by decide) hbreak hnobreak
  exact ⟨hexchange, hfront, hignored hblank⟩

end GridAuthz.Text
