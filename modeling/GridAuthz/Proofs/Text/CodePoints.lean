import Mathlib.Tactic.SplitIfs
import GridAuthz.Text.Preparation

/-!
# The tables of code points

The steps of the preparation look code points up in tables. What each look-up gives is one of the
entries of its table (`decomposeCodePoint_cases`, `composePair?_cases`, `foldCodePoint_cases`), so
that a fact about all characters comes down to a check of all entries.

Such a check has to find out of every entry whether its code points belong to some set. The sets are
kept as numbers whose bits are their members (`bitsOf`), which makes that one operation.
-/

namespace GridAuthz.Text

/-! ### Sets of code points -/

/-- The code points of some ranges, each given by its first and its last one, as the bits of a
number. -/
def bitsOf (ranges : List (Nat × Nat)) : Nat :=
  ranges.foldl (fun bits range => bits ||| ((1 <<< (range.2 + 1 - range.1) - 1) <<< range.1)) 0

theorem testBit_bitsOf (ranges : List (Nat × Nat)) (n : Nat) :
    (bitsOf ranges).testBit n = ranges.any fun range => range.1 ≤ n && n ≤ range.2 := by
  -- The bits of the first ranges are kept while those of the others are added.
  have hfold : ∀ bits : Nat, (ranges.foldl (fun bits range =>
      bits ||| ((1 <<< (range.2 + 1 - range.1) - 1) <<< range.1)) bits).testBit n =
        (bits.testBit n || ranges.any fun range => range.1 ≤ n && n ≤ range.2) := by
    induction ranges with
    | nil => simp
    | cons range ranges ih =>
      intro bits
      have hrange : (decide (n ≥ range.1) && decide (n - range.1 < range.2 + 1 - range.1)) =
          (decide (range.1 ≤ n) && decide (n ≤ range.2)) := by
        rw [Bool.eq_iff_iff]
        simp only [Bool.and_eq_true, decide_eq_true_eq]
        omega
      rw [List.foldl_cons, ih, Nat.testBit_or, Nat.testBit_shiftLeft, Nat.one_shiftLeft,
        Nat.testBit_two_pow_sub_one, hrange, List.any_cons, Bool.or_assoc]
  rw [bitsOf, hfold, Nat.zero_testBit, Bool.false_or]

theorem testBit_bitsOf_eq_true_iff {ranges : List (Nat × Nat)} {n : Nat} :
    (bitsOf ranges).testBit n = true ↔ ∃ range ∈ ranges, range.1 ≤ n ∧ n ≤ range.2 := by
  simp [testBit_bitsOf]

theorem testBit_bitsOf_eq_false_iff {ranges : List (Nat × Nat)} {n : Nat} :
    (bitsOf ranges).testBit n = false ↔ ∀ range ∈ ranges, ¬(range.1 ≤ n ∧ n ≤ range.2) := by
  simp [testBit_bitsOf]

/-! ### Decompositions -/

/-- What the decomposition tables say: a code point, behind what it decomposes into. -/
def decompositionEntries : List (List Nat × Nat) :=
  decompositionRows.flatMap fun row => row.images.toList.zipIdx row.first

/-- The code points that decompose. -/
def decomposables : Nat :=
  bitsOf ((Hangul.syllableBase, Hangul.syllableBase + Hangul.syllableCount - 1) ::
    decompositionRows.map fun row => (row.first, row.first + row.images.size - 1))

theorem mem_zipIdx_of_find? {row : Decomposition.Row} {n : Nat} {image : List Nat}
    (h : row.find? n = some image) : (image, n) ∈ row.images.toList.zipIdx row.first := by
  rw [Decomposition.Row.find?] at h
  split_ifs at h with hfirst
  rw [List.mk_mem_zipIdx_iff_le_and_getElem?_sub]
  exact ⟨hfirst, by simpa using h⟩

/-- A code point decomposes into itself, or is a syllable, or has an entry. -/
theorem decomposeCodePoint_cases (n : Nat) :
    decomposeCodePoint n = [n] ∨
      (∃ index < Hangul.syllableCount, n = Hangul.syllableBase + index ∧
        decomposeCodePoint n = Hangul.lettersOf index) ∨
      (decomposeCodePoint n, n) ∈ decompositionEntries := by
  rw [decomposeCodePoint]
  split_ifs with hlow hsyllable
  · exact .inl rfl
  · refine .inr (.inl ⟨n - Hangul.syllableBase, ?_, ?_, rfl⟩) <;> omega
  · cases h : decompositionRows.findSome? (·.find? n) with
    | none => exact .inl rfl
    | some image =>
      obtain ⟨row, hrow, hfind⟩ := List.exists_of_findSome?_eq_some h
      exact .inr (.inr (List.mem_flatMap.2 ⟨row, hrow, mem_zipIdx_of_find? hfind⟩))

theorem testBit_decomposables_of_mem {image : List Nat} {n : Nat}
    (h : (image, n) ∈ decompositionEntries) : decomposables.testBit n = true := by
  obtain ⟨row, hrow, hmem⟩ := List.mem_flatMap.1 h
  obtain ⟨hfirst, hlast, -⟩ := List.mem_zipIdx hmem
  rw [decomposables, testBit_bitsOf_eq_true_iff]
  refine ⟨_, List.mem_cons_of_mem _ (List.mem_map_of_mem hrow), hfirst, ?_⟩
  rw [Array.length_toList] at hlast
  exact Nat.le_sub_one_of_lt hlast

theorem decomposeCodePoint_of_testBit {n : Nat} (h : decomposables.testBit n = false) :
    decomposeCodePoint n = [n] := by
  rcases decomposeCodePoint_cases n with hself | ⟨index, hindex, rfl, -⟩ | hentry
  · exact hself
  · rw [decomposables, testBit_bitsOf_eq_false_iff] at h
    refine absurd ⟨?_, ?_⟩ (h _ List.mem_cons_self) <;> omega
  · rw [testBit_decomposables_of_mem hentry] at h
    cases h

/-! ### Compositions -/

/-- What the composition table says: two code points and what they compose to. -/
def compositionEntries : List (Nat × Nat × Nat) :=
  primaryComposites.flatMap fun row => row.2.map fun pair => (row.1, pair.1, pair.2)

/-- Two characters compose to a syllable or have an entry. -/
theorem composePair?_cases {a b c : Char} (h : composePair? a b = some c) :
    (∃ n, Hangul.compose? a.toNat b.toNat = some n ∧ c = Char.ofNat n) ∨
      ∃ n, (a.toNat, b.toNat, n) ∈ compositionEntries ∧ c = Char.ofNat n := by
  rw [composePair?] at h
  cases hhangul : Hangul.compose? a.toNat b.toNat with
  | some n =>
    simp only [hhangul, Option.some.injEq] at h
    exact .inl ⟨n, rfl, h.symm⟩
  | none =>
    simp only [hhangul, Option.map_eq_some_iff, Option.bind_eq_some_iff] at h
    obtain ⟨n, ⟨pairs, hpairs, hn⟩, rfl⟩ := h
    obtain ⟨_, _, hrows, -⟩ := List.lookup_eq_some_iff.1 hpairs
    obtain ⟨_, _, hpair, -⟩ := List.lookup_eq_some_iff.1 hn
    refine .inr ⟨n, List.mem_flatMap.2 ⟨(a.toNat, pairs), by simp [hrows], ?_⟩, rfl⟩
    exact List.mem_map.2 ⟨(b.toNat, n), by simp [hpair], rfl⟩

/-! ### Foldings -/

/-- What the folding tables say: a code point and what it folds to. -/
def foldingEntries : List (Nat × List Nat) :=
  (foldingRuns.flatMap fun run => (List.range ((run.last - run.first) / run.step + 1)).map
    fun i => (run.first + run.step * i, [run.image + run.step * i])) ++ foldingExpansions

theorem mem_foldingEntries_of_find? {run : FoldingRun} (hrun : run ∈ foldingRuns) {n image : Nat}
    (h : run.find? n = some image) : (n, [image]) ∈ foldingEntries := by
  rw [FoldingRun.find?] at h
  split_ifs at h with hn
  obtain ⟨hfirst, hlast, hstep⟩ := hn
  have hi : run.step * ((n - run.first) / run.step) = n - run.first :=
    Nat.mul_div_cancel' (Nat.dvd_of_mod_eq_zero hstep)
  refine List.mem_append_left _ (List.mem_flatMap.2 ⟨run, hrun, List.mem_map.2
    ⟨(n - run.first) / run.step, ?_, ?_⟩⟩)
  · rw [List.mem_range, Nat.lt_succ_iff]
    exact Nat.div_le_div_right (Nat.sub_le_sub_right hlast run.first)
  · rw [hi, Nat.add_sub_cancel' hfirst, ← Option.some.inj h]

/-- The code points that fold. -/
def foldables : Nat := bitsOf (foldingEntries.map fun entry => (entry.1, entry.1))

theorem testBit_foldables_of_mem {n : Nat} {images : List Nat} (h : (n, images) ∈ foldingEntries) :
    foldables.testBit n = true := by
  rw [foldables, testBit_bitsOf_eq_true_iff]
  exact ⟨_, List.mem_map_of_mem h, Nat.le_refl n, Nat.le_refl n⟩

theorem isSome_find?_of_mem_range {run : FoldingRun} (hle : run.first ≤ run.last) {i : Nat}
    (hi : i ∈ List.range ((run.last - run.first) / run.step + 1)) :
    (run.find? (run.first + run.step * i)).isSome = true := by
  rw [List.mem_range, Nat.lt_succ_iff] at hi
  have hlast : run.step * i ≤ run.last - run.first :=
    Nat.le_trans (Nat.mul_le_mul_left run.step hi) (Nat.mul_div_le _ _)
  rw [FoldingRun.find?, if_pos]
  · rfl
  · refine ⟨Nat.le_add_right _ _, by omega, ?_⟩
    rw [Nat.add_sub_cancel_left, Nat.mul_mod_right]

/-- A code point without an entry is found nowhere. -/
theorem testBit_foldables_of_eq_none {n : Nat} (hruns : foldingRuns.findSome? (·.find? n) = none)
    (hexpansions : foldingExpansions.lookup n = none) : foldables.testBit n = false := by
  have hle : ∀ run ∈ foldingRuns, run.first ≤ run.last := by decide +kernel
  rw [List.findSome?_eq_none_iff] at hruns
  rw [List.lookup_eq_none_iff] at hexpansions
  rw [foldables, testBit_bitsOf_eq_false_iff]
  rintro range hrange ⟨hfirst, hlast⟩
  obtain ⟨entry, hentry, rfl⟩ := List.mem_map.1 hrange
  obtain rfl : entry.1 = n := Nat.le_antisymm hfirst hlast
  rcases List.mem_append.1 hentry with hentry | hentry
  · obtain ⟨run, hrun, hentry⟩ := List.mem_flatMap.1 hentry
    obtain ⟨i, hi, rfl⟩ := List.mem_map.1 hentry
    have hsome := isSome_find?_of_mem_range (hle run hrun) hi
    rw [hruns run hrun] at hsome
    cases hsome
  · simpa using hexpansions entry hentry

/-- A code point folds to itself or has an entry. -/
theorem foldCodePoint_cases (n : Nat) :
    foldables.testBit n = false ∧ foldCodePoint n = [n] ∨
      (n, foldCodePoint n) ∈ foldingEntries := by
  rw [foldCodePoint]
  cases hruns : foldingRuns.findSome? (·.find? n) with
  | some image =>
    obtain ⟨run, hrun, hfind⟩ := List.exists_of_findSome?_eq_some hruns
    exact .inr (mem_foldingEntries_of_find? hrun hfind)
  | none =>
    cases hexpansion : foldingExpansions.lookup n with
    | none => exact .inl ⟨testBit_foldables_of_eq_none hruns hexpansion, rfl⟩
    | some images =>
      obtain ⟨_, _, hsplit, -⟩ := List.lookup_eq_some_iff.1 hexpansion
      refine .inr (List.mem_append_right _ ?_)
      rw [hsplit, Option.getD_some]
      exact List.mem_append_right _ List.mem_cons_self

theorem foldCodePoint_of_testBit {n : Nat} (h : foldables.testBit n = false) :
    foldCodePoint n = [n] := by
  rcases foldCodePoint_cases n with ⟨-, hself⟩ | hentry
  · exact hself
  · rw [testBit_foldables_of_mem hentry] at h
    cases h

end GridAuthz.Text
