import GridAuthz.Proofs.Text.NormalForm

/-!
# Folding normalized texts

Folding a normalized text need not leave it normalized: what one character folds to can compose with
the mark behind it. But none of the characters that the folded text decomposes into folds again
(`isFolded_of_mem_foldCase_nfkc`), so that from then on folding does not change what a text
decomposes into (`nfkc_foldCase_of_isFolded`).
-/

namespace GridAuthz.Text

/-! ### Characters that fold -/

/-- What a character folds to. -/
def foldCharacter (c : Char) : List Char := (foldCodePoint c.toNat).map Char.ofNat

theorem foldCase_eq (cs : List Char) : foldCase cs = cs.flatMap foldCharacter := rfl

theorem foldCharacter_of_testBit {c : Char} (h : foldables.testBit c.toNat = false) :
    foldCharacter c = [c] := by
  rw [foldCharacter, foldCodePoint_of_testBit h, List.map_singleton, Char.ofNat_toNat]

/-- Neither syllables nor their letters fold. -/
theorem testBit_foldables_of_bounds {n : Nat}
    (h : 0x1100 ≤ n ∧ n ≤ 0x11FF ∨ 0xAC00 ≤ n ∧ n ≤ 0xD7A3) : foldables.testBit n = false := by
  have hentries : (foldingEntries.all fun entry => entry.1 < 0x1100 ||
      0x11FF < entry.1 && entry.1 < 0xAC00 || 0xD7A3 < entry.1) = true := by decide +kernel
  rw [foldables, testBit_bitsOf_eq_false_iff]
  intro range hrange
  obtain ⟨entry, hentry, rfl⟩ := List.mem_map.1 hrange
  have hn := List.all_eq_true.1 hentries entry hentry
  simp only [Bool.or_eq_true, Bool.and_eq_true, decide_eq_true_eq] at hn
  omega

/-! ### Characters that are made of folded ones -/

/-- Nothing that the character decomposes into folds. -/
def IsFolded (c : Char) : Prop := ∀ d ∈ decompose c, foldables.testBit d.toNat = false

theorem isFolded_iff {c : Char} :
    IsFolded c ↔ ∀ n ∈ decomposeCodePoint c.toNat, foldables.testBit n = false := by
  rw [IsFolded, decompose, List.forall_mem_map]
  refine forall₂_congr fun n hn => ?_
  rw [toNat_ofNat_of_mem_decomposeCodePoint hn]

theorem toNat_ofNat_of_mem_foldCodePoint {c : Char} {n : Nat} (h : n ∈ foldCodePoint c.toNat) :
    (Char.ofNat n).toNat = n := by
  rcases foldCodePoint_cases c.toNat with ⟨-, hself⟩ | hentry
  · rw [hself, List.mem_singleton] at h
    rw [h, Char.ofNat_toNat]
  · have hplain := List.all_eq_true.1 isPlainCode_of_foldingEntries _ hentry
    exact toNat_ofNat_of_isPlainCode (List.all_eq_true.1 hplain n h)

theorem flatMap_decompose_foldCharacter (c : Char) : (foldCharacter c).flatMap decompose =
    ((foldCodePoint c.toNat).flatMap decomposeCodePoint).map Char.ofNat := by
  rw [foldCharacter, List.flatMap_map, List.map_flatMap]
  refine List.flatMap_congr fun n hn => ?_
  rw [decompose, toNat_ofNat_of_mem_foldCodePoint hn]

/-- A code point that folds, while nothing does that it decomposes into, folds to code points that
decompose into the same. -/
theorem decompositionOf_of_foldables : (decompositionEntries.all fun entry =>
    !foldables.testBit entry.2 || entry.1.any foldables.testBit ||
      (foldCodePoint entry.2).flatMap decompositionOf == entry.1) = true := by decide +kernel

/-- Folding does not change what such a character decomposes into. -/
theorem decompose_foldCharacter {c : Char} (h : IsFolded c) :
    (foldCharacter c).flatMap decompose = decompose c := by
  rw [isFolded_iff] at h
  cases hfold : foldables.testBit c.toNat with
  | false => rw [foldCharacter_of_testBit hfold, List.flatMap_singleton]
  | true =>
    have hcodes : (foldCodePoint c.toNat).flatMap decomposeCodePoint =
        decomposeCodePoint c.toNat := by
      rcases decomposeCodePoint_cases c.toNat with hself | ⟨index, hindex, hc, -⟩ | hentry
      · rw [h c.toNat (by rw [hself]; exact List.mem_singleton_self _)] at hfold
        cases hfold
      · have hbounds := isSyllable_iff.1 ⟨index, hindex, hc⟩
        rw [testBit_foldables_of_bounds (.inr hbounds)] at hfold
        cases hfold
      · have hall := List.all_eq_true.1 decompositionOf_of_foldables _ hentry
        have hnone : (decomposeCodePoint c.toNat).any foldables.testBit = false := by
          simpa using h
        simp only [hfold, hnone, Bool.not_true, Bool.false_or, beq_iff_eq] at hall
        rw [← hall]
        exact List.flatMap_congr fun n _ => (decompositionOf_eq n).symm
    rw [flatMap_decompose_foldCharacter, hcodes, decompose]

theorem decompose_foldCase {cs : List Char} (h : ∀ c ∈ cs, IsFolded c) :
    (foldCase cs).flatMap decompose = cs.flatMap decompose := by
  rw [foldCase_eq, List.flatMap_assoc]
  exact List.flatMap_congr fun c hc => decompose_foldCharacter (h c hc)

/-- Where nothing folds that a text decomposes into, folding its normal form does not change the
normal form any more. -/
theorem nfkc_foldCase_of_isFolded {cs : List Char} (h : ∀ c ∈ cs, IsFolded c) :
    nfkc (foldCase (nfkc cs)) = nfkc cs := by
  have hnormal : ∀ c ∈ nfkc cs, IsFolded c := by
    intro c hc d hd
    have hmem := mem_decompose_nfkc_iff.1 (List.mem_flatMap.2 ⟨c, hc, hd⟩)
    obtain ⟨b, hb, hd⟩ := List.mem_flatMap.1 hmem
    exact h b hb d hd
  apply nfkc_congr
  rw [decompose_foldCase hnormal, orderMarks_decompose_nfkc]

/-! ### What a normalized text folds to -/

/-- The code points that others compose to. -/
def composites : Nat := bitsOf (compositionEntries.map fun entry => (entry.2.2, entry.2.2))

/-- What a code point folds to decomposes into code points that do not fold and are no spaces. The
lunate sigma is an exception; no normalized text has it. -/
theorem foldables_of_foldingEntries : (foldingEntries.all fun entry =>
    entry.1 == 0x3F9 || entry.2.all fun n =>
      (decompositionOf n).all fun m => !foldables.testBit m && m != 0x20) = true := by
  decide +kernel

/-- A composite that does not fold decomposes into code points that do not, unless it is an upsilon
with a hook, for there is a folding letter that decomposes into that hook. -/
theorem foldables_of_decompositionEntries : (decompositionEntries.all fun entry =>
    !composites.testBit entry.2 || foldables.testBit entry.2 || entry.2 == 0x3D3 ||
      entry.2 == 0x3D4 || entry.1.all fun m => !foldables.testBit m) = true := by decide +kernel

/-- The exceptions are composed of one another only, so a normalized text has none of them. -/
theorem ne_of_compositionEntries : (compositionEntries.all fun entry =>
    entry.1 == 0x3D2 || entry.2.2 != 0x3D2 && entry.2.2 != 0x3D3 && entry.2.2 != 0x3D4 &&
      entry.2.2 != 0x3F9) = true := by decide +kernel

/-- The character is none of the exceptions, and if it does not fold, neither does anything that it
decomposes into. -/
structure FoldsAtOnce (c : Char) : Prop where
  /-- It is not the lunate sigma. -/
  ne_sigma : c.toNat ≠ 0x3F9
  /-- It is not the upsilon with a hook. -/
  ne_upsilon : c.toNat ≠ 0x3D2
  /-- If it does not fold, it is made of characters that do not. -/
  isFolded : foldables.testBit c.toNat = false → IsFolded c

theorem foldsAtOnce_of_mem_decompose {c d : Char} (h : d ∈ decompose c) : FoldsAtOnce d := by
  have hself := decompose_of_mem_decompose h
  have hcode := decomposeCodePoint_of_decompose hself
  have hne : ∀ n : Nat, decomposeCodePoint n ≠ [n] → d.toNat ≠ n := by
    rintro n hn rfl
    exact hn hcode
  refine ⟨hne _ (by decide +kernel), hne _ (by decide +kernel), fun hfold => ?_⟩
  rw [IsFolded, hself]
  simpa using hfold

/-- The letters of a syllable do not fold. -/
theorem testBit_foldables_of_syllable {n m : Nat} (hn : 0xAC00 ≤ n ∧ n ≤ 0xD7A3)
    (hm : m ∈ decomposeCodePoint n) : foldables.testBit m = false := by
  obtain ⟨index, hindex, rfl⟩ := isSyllable_iff.2 hn
  rw [decomposeCodePoint_of_syllable index hindex] at hm
  exact testBit_foldables_of_bounds (.inl (bounds_of_mem_lettersOf hindex hm))

theorem testBit_composites_of_mem {a b n : Nat} (h : (a, b, n) ∈ compositionEntries) :
    composites.testBit n = true := by
  rw [composites, testBit_bitsOf_eq_true_iff]
  exact ⟨_, List.mem_map_of_mem h, Nat.le_refl n, Nat.le_refl n⟩

theorem foldsAtOnce_of_composePair? {a b c : Char} (h : composePair? a b = some c)
    (ha : FoldsAtOnce a) : FoldsAtOnce c := by
  rcases compose?_or_mem_of_composePair? h with hsyllable | hentry
  · have hbounds := bounds_of_compose? hsyllable
    refine ⟨by omega, by omega, fun _ => isFolded_iff.2 fun m hm => ?_⟩
    exact testBit_foldables_of_syllable hbounds hm
  · have hne := List.all_eq_true.1 ne_of_compositionEntries _ hentry
    simp only [Bool.or_eq_true, beq_iff_eq, ha.ne_upsilon, false_or, Bool.and_eq_true,
      bne_iff_ne, ne_eq] at hne
    obtain ⟨⟨⟨hhook, hacute⟩, hdiaeresis⟩, hsigma⟩ := hne
    refine ⟨hsigma, hhook, fun hfold => isFolded_iff.2 fun m hm => ?_⟩
    rcases decomposeCodePoint_cases c.toNat with hself | ⟨index, hindex, hc, -⟩ | hmem
    · rw [hself, List.mem_singleton] at hm
      exact hm ▸ hfold
    · exact testBit_foldables_of_syllable (isSyllable_iff.1 ⟨index, hindex, hc⟩) hm
    · have hall := List.all_eq_true.1 foldables_of_decompositionEntries _ hmem
      simp only [testBit_composites_of_mem hentry, hfold, Bool.not_true, Bool.false_or,
        Bool.or_eq_true, beq_iff_eq, hacute, hdiaeresis, false_or] at hall
      simpa using List.all_eq_true.1 hall m hm

theorem foldsAtOnce_of_mem_nfkc {cs : List Char} : ∀ c ∈ nfkc cs, FoldsAtOnce c :=
  forall_mem_nfkc (fun _ _ _ hpair ha _ => foldsAtOnce_of_composePair? hpair ha)
    fun _ _ _ hd => foldsAtOnce_of_mem_decompose hd

/-- What a character of a normalized text folds to is that character, which does not fold, or it
decomposes into characters that do not fold and are no spaces. -/
theorem mem_foldCharacter_of_mem_nfkc {cs : List Char} {c d : Char} (hc : c ∈ nfkc cs)
    (hd : d ∈ foldCharacter c) : foldables.testBit c.toNat = false ∧ d = c ∨
      ∀ m ∈ decomposeCodePoint d.toNat, foldables.testBit m = false ∧ m ≠ 0x20 := by
  obtain ⟨n, hn, rfl⟩ := List.mem_map.1 hd
  have htoNat := toNat_ofNat_of_mem_foldCodePoint hn
  rcases foldCodePoint_cases c.toNat with ⟨hfold, hself⟩ | hentry
  · rw [hself, List.mem_singleton] at hn
    rw [hn, Char.ofNat_toNat]
    exact .inl ⟨hfold, rfl⟩
  · have hall := List.all_eq_true.1 foldables_of_foldingEntries _ hentry
    simp only [Bool.or_eq_true, beq_iff_eq, (foldsAtOnce_of_mem_nfkc c hc).ne_sigma, false_or]
      at hall
    have hpieces := List.all_eq_true.1 hall n hn
    rw [decompositionOf_eq] at hpieces
    refine .inr fun m hm => ?_
    rw [htoNat] at hm
    simpa using List.all_eq_true.1 hpieces m hm

/-- Nothing that a folded normal form decomposes into folds again. -/
theorem isFolded_of_mem_foldCase_nfkc (cs : List Char) : ∀ c ∈ foldCase (nfkc cs), IsFolded c := by
  intro d hd
  obtain ⟨c, hc, hd⟩ := List.mem_flatMap.1 hd
  rcases mem_foldCharacter_of_mem_nfkc hc hd with ⟨hfold, rfl⟩ | hpieces
  · exact (foldsAtOnce_of_mem_nfkc d hc).isFolded hfold
  · exact isFolded_iff.2 fun m hm => (hpieces m hm).1

/-! ### Spaces -/

/-- Only a space decomposes into characters of which one is a space. -/
def HasOwnSpaces (c : Char) : Prop := c = ' ' ∨ ' ' ∉ decompose c

theorem hasOwnSpaces_of_mem_nfkc {cs : List Char} : ∀ c ∈ nfkc cs, HasOwnSpaces c := by
  apply forall_mem_nfkc
  · intro a b c hpair ha _
    refine .inr ?_
    rw [decompose_of_composePair? hpair]
    have hne : a ≠ ' ' := by
      rintro rfl
      rw [composePair?_space_left] at hpair
      cases hpair
    have hne' : b ≠ ' ' := by
      rintro rfl
      rw [composePair?_space] at hpair
      cases hpair
    simpa [hne'.symm] using ha.resolve_left hne
  · intro c _ d hd
    by_cases hspace : d = ' '
    · exact .inl hspace
    · exact .inr (by simpa [decompose_of_mem_decompose hd] using Ne.symm hspace)

theorem hasOwnSpaces_of_mem_foldCase_nfkc {cs : List Char} :
    ∀ c ∈ foldCase (nfkc cs), HasOwnSpaces c := by
  intro d hd
  obtain ⟨c, hc, hd⟩ := List.mem_flatMap.1 hd
  rcases mem_foldCharacter_of_mem_nfkc hc hd with ⟨-, rfl⟩ | hpieces
  · exact hasOwnSpaces_of_mem_nfkc d hc
  · refine .inr fun hspace => ?_
    obtain ⟨m, hm, hspace⟩ := List.mem_map.1 hspace
    have htoNat := toNat_ofNat_of_mem_decomposeCodePoint hm
    rw [hspace] at htoNat
    exact (hpieces m hm).2 htoNat.symm

/-- Where no character but a space decomposes into one, no space comes up. -/
theorem space_notMem_foldCase_nfkc {cs : List Char} (hspaces : ∀ c ∈ cs, HasOwnSpaces c)
    (h : ' ' ∉ cs) : ' ' ∉ foldCase (nfkc cs) := by
  have hdecomposed : ' ' ∉ cs.flatMap decompose := by
    intro hmem
    obtain ⟨c, hc, hmem⟩ := List.mem_flatMap.1 hmem
    rcases hspaces c hc with rfl | hno
    · exact h hc
    · exact hno hmem
  have hnormal : ' ' ∉ nfkc cs := fun hmem =>
    hdecomposed (mem_decompose_nfkc_iff.1
      (List.mem_flatMap.2 ⟨' ', hmem, List.mem_singleton_self _⟩))
  intro hmem
  obtain ⟨c, hc, hmem⟩ := List.mem_flatMap.1 hmem
  rcases mem_foldCharacter_of_mem_nfkc hc hmem with ⟨-, rfl⟩ | hpieces
  · exact hnormal hc
  · exact (hpieces 0x20 (List.mem_singleton_self _)).2 rfl

/-! ### No step leaves nothing -/

theorem ne_nil_of_decompositionEntries :
    (decompositionEntries.all fun entry => !entry.1.isEmpty) = true := by decide +kernel

theorem ne_nil_of_foldingEntries :
    (foldingEntries.all fun entry => !entry.2.isEmpty) = true := by decide +kernel

theorem decompose_ne_nil (c : Char) : decompose c ≠ [] := by
  have hcodes : decomposeCodePoint c.toNat ≠ [] := by
    rcases decomposeCodePoint_cases c.toNat with hself | ⟨index, -, -, hletters⟩ | hentry
    · rw [hself]
      exact List.cons_ne_nil _ _
    · rw [hletters, Hangul.lettersOf]
      split_ifs <;> exact List.cons_ne_nil _ _
    · simpa using List.all_eq_true.1 ne_nil_of_decompositionEntries _ hentry
  exact fun h => hcodes (List.map_eq_nil_iff.1 h)

theorem foldCharacter_ne_nil (c : Char) : foldCharacter c ≠ [] := by
  have hcodes : foldCodePoint c.toNat ≠ [] := by
    rcases foldCodePoint_cases c.toNat with ⟨-, hself⟩ | hentry
    · rw [hself]
      exact List.cons_ne_nil _ _
    · simpa using List.all_eq_true.1 ne_nil_of_foldingEntries _ hentry
  exact fun h => hcodes (List.map_eq_nil_iff.1 h)

theorem foldCase_nfkc_ne_nil {cs : List Char} (h : cs ≠ []) : foldCase (nfkc cs) ≠ [] := by
  obtain ⟨c, cs, rfl⟩ := List.exists_cons_of_ne_nil h
  obtain ⟨d, hd⟩ := List.exists_mem_of_ne_nil _ (decompose_ne_nil c)
  have hmem : d ∈ (nfkc (c :: cs)).flatMap decompose :=
    mem_decompose_nfkc_iff.2 (List.mem_flatMap.2 ⟨c, List.mem_cons_self, hd⟩)
  obtain ⟨b, hb, -⟩ := List.mem_flatMap.1 hmem
  obtain ⟨e, he⟩ := List.exists_mem_of_ne_nil _ (foldCharacter_ne_nil b)
  exact List.ne_nil_of_mem (List.mem_flatMap.2 ⟨b, hb, he⟩)

end GridAuthz.Text
