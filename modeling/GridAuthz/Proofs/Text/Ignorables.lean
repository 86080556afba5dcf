import GridAuthz.Proofs.Text.Stability

/-!
# Ignorable characters do not count

RFC 4518, section 2.2, has a list of code points that are mapped to nothing. The ranges that are
mapped to nothing here leave out the last eleven of them, the tags from `U+E0075` on. An ignorable
character is gone before the text is normalized, so it makes no difference even between characters
that combine. No table of normalization or folding knows a tag, so one that is not ignorable comes
through as often as it occurs (`count_prepareChars`). So a character of the list counts exactly if it
is one of those left out (`prepare_insert_eq_iff`).
-/

namespace GridAuthz.Text

/-- The ranges of code points that RFC 4518, section 2.2, maps to nothing: first and last code
point. -/
def rfcIgnorableRanges : List (Nat × Nat) := [
  (0x0, 0x8), (0xE, 0x1F), (0x7F, 0x84), (0x86, 0x9F), (0xAD, 0xAD), (0x34F, 0x34F),
  (0x6DD, 0x6DD), (0x70F, 0x70F), (0x1806, 0x1806), (0x180B, 0x180E), (0x200B, 0x200F),
  (0x202A, 0x202E), (0x2060, 0x2063), (0x206A, 0x206F), (0xFE00, 0xFE0F), (0xFEFF, 0xFEFF),
  (0xFFF9, 0xFFFC), (0x1D173, 0x1D17A), (0xE0001, 0xE0001), (0xE0020, 0xE007F)]

/-- The character is one that is mapped to nothing according to the RFC. -/
def IsRfcIgnorable (c : Char) : Prop :=
  ∃ range ∈ rfcIgnorableRanges, range.1 ≤ c.toNat ∧ c.toNat ≤ range.2

instance : DecidablePred IsRfcIgnorable := fun c =>
  inferInstanceAs (Decidable (∃ range ∈ rfcIgnorableRanges, range.1 ≤ c.toNat ∧ c.toNat ≤ range.2))

/-- Of the list, the last tags are missing. -/
theorem isIgnorable_iff_of_isRfcIgnorable {c : Char} (h : IsRfcIgnorable c) :
    isIgnorable c = true ↔ c.toNat < 0xE0075 := by
  obtain ⟨range, hrange, hfirst, hlast⟩ := h
  have hranges : ∀ range ∈ rfcIgnorableRanges,
      range ∈ ignorableRanges ∧ range.2 < 0xE0075 ∨ range = (0xE0020, 0xE007F) := by decide
  have htags : ∀ range ∈ ignorableRanges, range.2 < 0xE0075 := by decide
  rw [isIgnorable, List.any_eq_true]
  constructor
  · rintro ⟨range, hrange, hmem⟩
    simp only [Bool.and_eq_true, decide_eq_true_eq] at hmem
    exact hmem.2.trans_lt (htags range hrange)
  · intro hlt
    rcases hranges range hrange with ⟨hmem, -⟩ | rfl
    · exact ⟨range, hmem, by simpa using ⟨hfirst, hlast⟩⟩
    · refine ⟨(0xE0020, 0xE0074), by decide, ?_⟩
      simpa using ⟨hfirst, Nat.le_of_lt_succ hlt⟩

theorem isWhitespace_of_isRfcIgnorable {c : Char} (h : IsRfcIgnorable c) : isWhitespace c = false := by
  obtain ⟨range, hrange, hfirst, hlast⟩ := h
  have hdisjoint : ∀ range ∈ rfcIgnorableRanges, ∀ space ∈ whitespaceRanges,
      range.2 < space.1 ∨ space.2 < range.1 := by decide
  rw [isWhitespace_eq, List.any_eq_false]
  intro space hspace hmem
  simp only [Bool.and_eq_true, decide_eq_true_eq] at hmem
  have := hdisjoint range hrange space hspace
  omega

/-! ### Tags come through -/

theorem count_flatMap_eq {f : Char → List Char} {c : Char}
    (h : ∀ d, (f d).count c = [d].count c) (cs : List Char) :
    (cs.flatMap f).count c = cs.count c := by
  induction cs with
  | nil => rfl
  | cons d cs ih =>
    rw [List.flatMap_cons, List.count_append, h, ih, ← List.count_append, List.singleton_append]

/-- The tables know no code point from the first tag on. -/
theorem lt_of_decompositionEntries :
    (decompositionEntries.all fun entry => entry.2 < 0xE0000) = true := by decide +kernel

theorem lt_of_compositionEntries :
    (compositionEntries.all fun entry => entry.1 < 0xE0000 && entry.2.1 < 0xE0000) = true := by
  decide +kernel

theorem lt_of_foldingEntries :
    (foldingEntries.all fun entry => entry.1 < 0xE0000) = true := by decide +kernel

section Tag

variable {c : Char} (hc : 0xE0000 ≤ c.toNat)

include hc

theorem ofNat_ne_of_isPlainCode {n : Nat} (h : isPlainCode n = true) : Char.ofNat n ≠ c := by
  rintro rfl
  rw [toNat_ofNat_of_isPlainCode h] at hc
  simp only [isPlainCode, Bool.or_eq_true, beq_iff_eq, Bool.and_eq_true, Nat.blt_eq] at h
  omega

/-- What is made of a character by a table does not have the tag in it. -/
theorem count_eq_of_isPlainCode {codes : List Nat} (h : codes.all isPlainCode = true) {d : Char}
    (hd : d.toNat < 0xE0000) : (codes.map Char.ofNat).count c = [d].count c := by
  have hne : d ≠ c := by
    rintro rfl
    omega
  have hcodes : c ∉ codes.map Char.ofNat := by
    rintro hmem
    obtain ⟨n, hn, heq⟩ := List.mem_map.1 hmem
    exact ofNat_ne_of_isPlainCode hc (List.all_eq_true.1 h n hn) heq
  rw [List.count_eq_zero.2 hcodes, List.count_eq_zero.2 (by simpa using hne.symm)]

theorem count_decompose (d : Char) : (decompose d).count c = [d].count c := by
  rw [decompose]
  rcases decomposeCodePoint_cases d.toNat with hself | ⟨index, hindex, hd, hletters⟩ | hentry
  · rw [hself, List.map_singleton, Char.ofNat_toNat]
  · rw [hletters]
    refine count_eq_of_isPlainCode hc (List.all_eq_true.2 fun n hn => ?_) ?_
    · exact isPlainCode_of_mem_lettersOf hindex hn
    · have hbounds := isSyllable_iff.1 ⟨index, hindex, hd⟩
      omega
  · have hplain := List.all_eq_true.1 isPlainCode_of_decompositionEntries _ hentry
    have hlt := List.all_eq_true.1 lt_of_decompositionEntries _ hentry
    exact count_eq_of_isPlainCode hc hplain (by simpa using hlt)

theorem count_foldCharacter (d : Char) : (foldCharacter d).count c = [d].count c := by
  rw [foldCharacter]
  rcases foldCodePoint_cases d.toNat with ⟨-, hself⟩ | hentry
  · rw [hself, List.map_singleton, Char.ofNat_toNat]
  · have hplain := List.all_eq_true.1 isPlainCode_of_foldingEntries _ hentry
    have hlt := List.all_eq_true.1 lt_of_foldingEntries _ hentry
    exact count_eq_of_isPlainCode hc hplain (by simpa using hlt)

/-- No tag composes, and nothing composes to a tag. -/
theorem ne_of_composePair? {a b d : Char} (h : composePair? a b = some d) :
    a ≠ c ∧ b ≠ c ∧ d ≠ c := by
  have hd : d ≠ c := by
    rcases composePair?_cases h with ⟨n, hn, rfl⟩ | ⟨n, hentry, rfl⟩
    · exact ofNat_ne_of_isPlainCode hc (isPlainCode_of_compose? hn)
    · exact ofNat_ne_of_isPlainCode hc
        (List.all_eq_true.1 isPlainCode_of_compositionEntries _ hentry)
  have hlt : a.toNat < 0xE0000 ∧ b.toNat < 0xE0000 := by
    rcases composePair?_cases h with ⟨n, hn, -⟩ | ⟨n, hentry, -⟩
    · rw [Hangul.compose?] at hn
      split_ifs at hn with hlead htrail
      · simp only [Hangul.leadBase, Hangul.leadCount, Hangul.vowelBase, Hangul.vowelCount] at hlead
        omega
      · simp only [Hangul.syllableBase, Hangul.syllableCount, Hangul.trailBase, Hangul.leadCount,
          Hangul.vowelCount, Hangul.trailCount] at htrail
        omega
    · simpa using List.all_eq_true.1 lt_of_compositionEntries _ hentry
  refine ⟨?_, ?_, hd⟩ <;> rintro rfl <;> omega

theorem count_composeAfter (starter : Char) (held : List Char) (lastClass : Option Nat)
    (cs : List Char) :
    (composeAfter starter held lastClass cs).count c = (starter :: (held ++ cs)).count c := by
  induction cs generalizing starter held lastClass with
  | nil => rw [composeAfter, List.append_nil]
  | cons d cs ih =>
    rw [composeAfter]
    split
    · rename_i composite hjoined
      have hpair : composePair? starter d = some composite := by
        split_ifs at hjoined
        exact hjoined
      obtain ⟨hstarter, hd, hcomposite⟩ := ne_of_composePair? hc hpair
      simp [ih, List.count_append, hstarter, hd, hcomposite]
    · split_ifs
      · simp [ih, List.count_append, List.count_cons]
      · simp [ih, List.count_append, List.count_cons]

theorem count_compose (cs : List Char) : (compose cs).count c = cs.count c := by
  induction cs with
  | nil => rfl
  | cons d cs ih =>
    rw [compose]
    split_ifs
    · rw [count_composeAfter hc, List.nil_append]
    · rw [List.count_cons, List.count_cons, ih]

theorem count_nfkc (cs : List Char) : (nfkc cs).count c = cs.count c := by
  rw [nfkc, count_compose hc, (orderMarks_perm [] _).count_eq, List.nil_append,
    count_flatMap_eq (count_decompose hc)]

end Tag

/-! ### Spaces -/

theorem count_intercalate {separator : List Char} {c : Char} (hc : c ∉ separator)
    (pieces : List (List Char)) :
    (separator.intercalate pieces).count c = pieces.flatten.count c := by
  induction pieces with
  | nil => rfl
  | cons piece pieces ih =>
    cases pieces with
    | nil => simp
    | cons next pieces =>
      rw [List.intercalate_cons_cons, List.count_append, List.count_append, ih,
        List.count_eq_zero.2 hc, List.flatten_cons (l := piece), List.count_append, Nat.add_zero]

/-- Compressing spaces leaves all other characters. -/
theorem count_compressSpaces {c : Char} (hc : c ≠ ' ') (cs : List Char) :
    (compressSpaces cs).count c = cs.count c := by
  have hspace : c ∉ [' '] := by simpa using hc
  have hspaces : c ∉ [' ', ' '] := by simpa using hc
  have hwords : (wordsOf cs).flatten = (cs.splitOn ' ').flatten := List.flatten_filter_not_isEmpty
  calc (compressSpaces cs).count c
      = ([' ', ' '].intercalate (wordsOf cs)).count c := by
        rw [compressSpaces, List.count_cons_of_ne hc.symm, List.count_append,
          List.count_eq_zero.2 hspace, Nat.add_zero]
    _ = ([' '].intercalate (cs.splitOn ' ')).count c := by
        rw [count_intercalate hspaces, count_intercalate hspace, hwords]
    _ = cs.count c := by rw [List.intercalate_splitOn]

/-! ### What counts -/

/-- White space and ignorable characters are mapped, all others stay. -/
theorem mapCharacter?_eq_some_iff {c d : Char} (hc : c ≠ ' ') (hkept : isIgnorable c = false)
    (hspace : isWhitespace c = false) : mapCharacter? d = some c ↔ d = c := by
  constructor
  · intro h
    rw [mapCharacter?] at h
    split_ifs at h
    · exact absurd (Option.some.inj h).symm hc
    · exact Option.some.inj h
  · rintro rfl
    simp [mapCharacter?, hkept, hspace]

/-- A tag that is not ignorable occurs in a prepared text as often as in the text itself. -/
theorem count_prepareChars {c : Char} (hc : 0xE0000 ≤ c.toNat) (hkept : isIgnorable c = false)
    (cs : List Char) : (prepareChars cs).count c = cs.count c := by
  have hne : c ≠ ' ' := by
    rintro rfl
    exact absurd hc (by decide)
  have hspace : isWhitespace c = false := by
    have hlow : ∀ range ∈ whitespaceRanges, range.2 < 0xE0000 := by decide
    rw [isWhitespace_eq, List.any_eq_false]
    intro range hrange
    have := hlow range hrange
    simp only [Bool.and_eq_true, decide_eq_true_eq]
    omega
  have hmapped : (cs.filterMap mapCharacter?).count c = cs.count c := by
    rw [List.count_filterMap, List.count]
    refine List.countP_congr fun d _ => ?_
    rw [beq_iff_eq, beq_iff_eq, mapCharacter?_eq_some_iff hne hkept hspace]
  rw [prepareChars, count_compressSpaces hne, foldCase_eq,
    count_flatMap_eq (count_foldCharacter hc), count_nfkc hc, hmapped]

/-- An ignorable character makes no difference wherever it stands. -/
theorem prepareChars_insert_of_isIgnorable {c : Char} (hspace : isWhitespace c = false)
    (hc : isIgnorable c = true) (xs ys : List Char) :
    prepareChars (xs ++ c :: ys) = prepareChars (xs ++ ys) := by
  have hnone : mapCharacter? c = none := by simp [mapCharacter?, hspace, hc]
  rw [prepareChars, prepareChars, List.filterMap_append, List.filterMap_append,
    List.filterMap_cons_none hnone]

/-- A character that the RFC maps to nothing makes no difference, wherever it stands and whatever is
on its two sides, except for the last tags, `U+E0075` to `U+E007F`: each of these makes a difference
wherever it stands. -/
theorem prepare_insert_eq_iff {c : Char} (hc : IsRfcIgnorable c) (a b : String) :
    prepare (a ++ String.singleton c ++ b) = prepare (a ++ b) ↔ c.toNat < 0xE0075 := by
  have hspace := isWhitespace_of_isRfcIgnorable hc
  rw [← isIgnorable_iff_of_isRfcIgnorable hc, prepare, prepare, String.ofList_inj]
  simp only [String.toList_append, String.toList_singleton, List.append_assoc,
    List.singleton_append]
  constructor
  · intro h
    by_contra hkept
    have htag : 0xE0000 ≤ c.toNat := by
      rw [isIgnorable_iff_of_isRfcIgnorable hc] at hkept
      omega
    have hcount := congrArg (List.count c) h
    simp [count_prepareChars htag (by simpa using hkept)] at hcount
  · intro hignorable
    exact prepareChars_insert_of_isIgnorable hspace hignorable _ _

/-- A soft hyphen between a letter and a mark that composes with it, and the tags on the two sides of
the border between two letters. -/
theorem prepare_insert_eq_iff_sample :
    prepare ("e" ++ String.singleton '\u00AD' ++ "\u0301") = prepare ("e" ++ "\u0301") ∧
      prepare ("a" ++ String.singleton (Char.ofNat 0xE0074) ++ "b") = prepare ("a" ++ "b") ∧
      prepare ("a" ++ String.singleton (Char.ofNat 0xE0075) ++ "b") ≠ prepare ("a" ++ "b") :=
  ⟨(prepare_insert_eq_iff (by decide) "e" "\u0301").2 (by decide),
    (prepare_insert_eq_iff (by decide) "a" "b").2 (by decide),
    fun h => absurd ((prepare_insert_eq_iff (by decide) "a" "b").1 h) (by decide)⟩

end GridAuthz.Text
