import GridAuthz.Proofs.Text.Decompositions

/-!
# What composites decompose into

A composite decomposes into what the first character of its pair does, and the second one
(`decompose_of_composePair?`).
-/

namespace GridAuthz.Text

theorem decompositionOf_of_compositionEntries : (compositionEntries.all fun entry =>
    decompositionOf entry.2.2 == decompositionOf entry.1 ++ [entry.2.1]) = true := by decide +kernel

theorem decomposeCodePoint_of_syllable (index : Nat) (h : index < Hangul.syllableCount) :
    decomposeCodePoint (Hangul.syllableBase + index) = Hangul.lettersOf index := by
  have hlow : ¬Hangul.syllableBase + index < 0xA0 := by
    rw [Hangul.syllableBase]
    omega
  rw [decomposeCodePoint, if_neg hlow, if_pos (by omega), Nat.add_sub_cancel_left]

/-- The letters of a syllable are those of the syllable or letter it is composed of, and the added
one. -/
theorem decomposeCodePoint_of_compose? {a b n : Nat} (h : Hangul.compose? a b = some n) :
    decomposeCodePoint n = decomposeCodePoint a ++ [b] := by
  rw [Hangul.compose?] at h
  split_ifs at h with hlead htrail
  · obtain ⟨hfirst, hlast, hvowel, hvowel'⟩ := hlead
    rw [Option.some.injEq] at h
    subst h
    simp only [Hangul.leadBase, Hangul.vowelBase, Hangul.leadCount, Hangul.vowelCount,
      Hangul.trailCount] at hfirst hlast hvowel hvowel' ⊢
    have hindex : ((a - 0x1100) * 21 + (b - 0x1161)) * 28 < Hangul.syllableCount := by
      rw [Hangul.syllableCount, Hangul.leadCount, Hangul.vowelCount, Hangul.trailCount]
      omega
    rw [decomposeCodePoint_of_syllable _ hindex, decomposeCodePoint_of_letter hfirst (by omega),
      Hangul.lettersOf, Hangul.trailCount, if_pos (Nat.mul_mod_left _ _)]
    simp only [Hangul.leadBase, Hangul.vowelBase, Hangul.vowelCount, List.cons_append,
      List.nil_append, List.cons.injEq, and_true]
    omega
  · obtain ⟨hfirst, hlast, hopen, hlow, hhigh⟩ := htrail
    rw [Option.some.injEq] at h
    subst h
    obtain ⟨index, rfl⟩ := Nat.exists_eq_add_of_le hfirst
    rw [Nat.add_sub_cancel_left] at hopen
    have hindex : index < Hangul.syllableCount := by omega
    simp only [Hangul.trailBase, Hangul.trailCount] at hopen hlow hhigh ⊢
    have hnext : index + (b - 0x11A7) < Hangul.syllableCount := by
      rw [Hangul.syllableCount, Hangul.leadCount, Hangul.vowelCount, Hangul.trailCount]
        at hindex ⊢
      omega
    rw [Nat.add_assoc, decomposeCodePoint_of_syllable _ hnext,
      decomposeCodePoint_of_syllable _ hindex, Hangul.lettersOf, Hangul.lettersOf,
      Hangul.trailCount, if_neg (by omega), if_pos hopen]
    simp only [Hangul.leadBase, Hangul.vowelBase, Hangul.trailBase, Hangul.vowelCount,
      List.cons_append, List.nil_append, List.cons.injEq, and_true]
    omega

/-- A composite decomposes into what the first character of its pair does, and the second one. -/
theorem decompose_of_composePair? {a b c : Char} (h : composePair? a b = some c) :
    decompose c = decompose a ++ [b] := by
  have hcodes : decomposeCodePoint c.toNat = decomposeCodePoint a.toNat ++ [b.toNat] := by
    rcases compose?_or_mem_of_composePair? h with hsyllable | hentry
    · exact decomposeCodePoint_of_compose? hsyllable
    · have heq := List.all_eq_true.1 decompositionOf_of_compositionEntries _ hentry
      simpa only [decompositionOf_eq, beq_iff_eq] using heq
  rw [decompose, decompose, hcodes, List.map_append, List.map_singleton, Char.ofNat_toNat]

end GridAuthz.Text
