import GridAuthz.Proofs.Text.Folding

/-!
# Folding away from marks

What a character folds to is normal, or its normal form is the character itself
(`nfkc_foldCharacter`). So a normalized text can be folded and normalized piece by piece, unless
something combines with a character that folds: where nothing does, folding the normal form again
gives the folded text back (`foldCase_nfkc_foldCase`).
-/

namespace GridAuthz.Text

/-! ### Characters that start anew -/

/-- The ranges of code points that combine with something in front of them: vowels and trailing
consonants of syllables, marks, and the second code points of pairs. -/
def attachingRanges : List (Nat × Nat) :=
  (0x1161, 0x1175) :: (0x11A8, 0x11C2) :: (combiningClasses.map (fun row => (row.1, row.2.1)) ++
    compositionEntries.map fun entry => (entry.2.1, entry.2.1))

/-- The code points that combine with something in front of them. -/
def attaching : Nat := bitsOf attachingRanges

theorem startsAnew_of_testBit {c : Char} (h : attaching.testBit c.toNat = false) :
    StartsAnew c := by
  rw [attaching, testBit_bitsOf_eq_false_iff, attachingRanges, List.forall_mem_cons,
    List.forall_mem_cons, List.forall_mem_append, List.forall_mem_map, List.forall_mem_map] at h
  obtain ⟨hvowel, htrail, hmark, hsecond⟩ := h
  constructor
  · rw [combiningClass]
    split_ifs
    · rfl
    · split
      · rename_i row hrow
        have hrange := List.find?_some hrow
        simp only [Bool.and_eq_true, decide_eq_true_eq] at hrange
        exact absurd hrange (hmark _ (List.mem_of_find?_eq_some hrow))
      · rfl
  · intro a
    cases hpair : composePair? a c with
    | none => rfl
    | some composite =>
      rcases compose?_or_mem_of_composePair? hpair with hn | hentry
      · rw [Hangul.compose?] at hn
        split_ifs at hn with hlead hsyllable
        · exact absurd ⟨hlead.2.2.1, Nat.le_of_lt_succ hlead.2.2.2⟩ hvowel
        · exact absurd ⟨hsyllable.2.2.2.1, Nat.le_of_lt_succ hsyllable.2.2.2.2⟩ htrail
      · exact absurd ⟨Nat.le_refl _, Nat.le_refl _⟩ (hsecond _ hentry)

/-- Nothing in front of the first mark combines with anything in front of it. -/
theorem startsAnew_of_lt {c : Char} (h : c.toNat < 0x300) : StartsAnew c := by
  have hranges : (attachingRanges.all fun range => 0x300 ≤ range.1) = true := by decide +kernel
  apply startsAnew_of_testBit
  rw [attaching, testBit_bitsOf_eq_false_iff]
  rintro range hrange ⟨hfirst, -⟩
  have hlow := of_decide_eq_true (List.all_eq_true.1 hranges range hrange)
  omega

theorem attaching_of_compositionEntries :
    (compositionEntries.all fun entry => !attaching.testBit entry.1) = true := by decide +kernel

/-- Leading consonants and syllables start anew. -/
theorem testBit_attaching_of_bounds {n : Nat}
    (h : 0x1100 ≤ n ∧ n ≤ 0x1112 ∨ 0xAC00 ≤ n ∧ n ≤ 0xD7A3) : attaching.testBit n = false := by
  have hranges : (attachingRanges.all fun range => range.2 < 0x1100 ||
      0x1112 < range.1 && range.2 < 0xAC00 || 0xD7A3 < range.1) = true := by decide +kernel
  rw [attaching, testBit_bitsOf_eq_false_iff]
  intro range hrange
  have hn := List.all_eq_true.1 hranges range hrange
  simp only [Bool.or_eq_true, Bool.and_eq_true, decide_eq_true_eq] at hn
  omega

/-- The first character of a pair starts anew. -/
theorem startsAnew_of_composePair? {a b c : Char} (h : composePair? a b = some c) :
    StartsAnew a := by
  apply startsAnew_of_testBit
  rcases compose?_or_mem_of_composePair? h with hn | hentry
  · apply testBit_attaching_of_bounds
    rw [Hangul.compose?] at hn
    split_ifs at hn with hlead hsyllable
    · exact .inl ⟨hlead.1, Nat.le_of_lt_succ hlead.2.1⟩
    · exact .inr ⟨hsyllable.1, Nat.le_of_lt_succ hsyllable.2.1⟩
  · simpa using List.all_eq_true.1 attaching_of_compositionEntries _ hentry

/-! ### Where a text starts once it is decomposed -/

/-- What the character decomposes into starts with the character itself, or starts anew. -/
def HasFreshHead (c : Char) : Prop := ∀ d ∈ (decompose c).head?, d = c ∨ StartsAnew d

theorem hasFreshHead_of_mem_nfkc {cs : List Char} : ∀ c ∈ nfkc cs, HasFreshHead c := by
  apply forall_mem_nfkc
  · intro a b c hpair ha _ d hd
    rw [decompose_of_composePair? hpair,
      List.head?_append_of_ne_nil _ (decompose_ne_nil a)] at hd
    rcases ha d hd with rfl | hfresh
    · exact .inr (startsAnew_of_composePair? hpair)
    · exact .inr hfresh
  · intro c _ d hd e he
    rw [decompose_of_mem_decompose hd] at he
    exact .inl (Option.some.inj he).symm

/-- A piece of a normalized text that starts anew does so once it is decomposed. -/
theorem startsAnew_of_mem_head? {cs : List Char} (hheads : ∀ c ∈ cs, HasFreshHead c)
    (h : ∀ c ∈ cs.head?, StartsAnew c) : ∀ d ∈ (cs.flatMap decompose).head?, StartsAnew d := by
  intro d hd
  cases cs with
  | nil => cases hd
  | cons c cs =>
    rw [List.flatMap_cons, List.head?_append_of_ne_nil _ (decompose_ne_nil c)] at hd
    rcases hheads c List.mem_cons_self d hd with rfl | hfresh
    · exact h d rfl
    · exact hfresh

/-- What a code point folds to starts anew once it is decomposed. -/
theorem attaching_of_foldingEntries : (foldingEntries.all fun entry =>
    (entry.2.flatMap decompositionOf).head?.all fun n => !attaching.testBit n) = true := by
  decide +kernel

theorem toNat_ofNat_of_mem_flatMap {c : Char} {n : Nat}
    (h : n ∈ (foldCodePoint c.toNat).flatMap decomposeCodePoint) : (Char.ofNat n).toNat = n := by
  obtain ⟨m, hm, hn⟩ := List.mem_flatMap.1 h
  rw [← toNat_ofNat_of_mem_foldCodePoint hm] at hn
  exact toNat_ofNat_of_mem_decomposeCodePoint hn

theorem startsAnew_of_testBit_foldables {c : Char} (h : foldables.testBit c.toNat = true) :
    ∀ d ∈ ((foldCharacter c).flatMap decompose).head?, StartsAnew d := by
  intro d hd
  rw [flatMap_decompose_foldCharacter, List.head?_map] at hd
  obtain ⟨n, hn, rfl⟩ := Option.map_eq_some_iff.1 hd
  apply startsAnew_of_testBit
  rw [toNat_ofNat_of_mem_flatMap (List.mem_of_head? hn)]
  rcases foldCodePoint_cases c.toNat with ⟨hfold, -⟩ | hentry
  · rw [h] at hfold
    cases hfold
  · have hhead := List.all_eq_true.1 attaching_of_foldingEntries _ hentry
    rw [funext decompositionOf_eq, hn] at hhead
    simpa using hhead

/-- Folding a text that starts anew leaves it starting anew. -/
theorem startsAnew_of_mem_head?_foldCase {cs : List Char} (hheads : ∀ c ∈ cs, HasFreshHead c)
    (h : ∀ c ∈ cs.head?, StartsAnew c) :
    ∀ d ∈ ((foldCase cs).flatMap decompose).head?, StartsAnew d := by
  cases cs with
  | nil => exact fun d hd => absurd hd (Option.not_mem_none d)
  | cons c cs =>
    obtain ⟨e, es, he⟩ := List.exists_cons_of_ne_nil (foldCharacter_ne_nil c)
    intro d hd
    rw [foldCase_eq, List.flatMap_cons, List.flatMap_append, List.head?_append_of_ne_nil] at hd
    · cases hfold : foldables.testBit c.toNat with
      | false =>
        rw [foldCharacter_of_testBit hfold] at hd
        have hhead : ∀ b ∈ [c], HasFreshHead b := by simpa using hheads c List.mem_cons_self
        exact startsAnew_of_mem_head? hhead h d hd
      | true => exact startsAnew_of_testBit_foldables hfold d hd
    · rw [he, List.flatMap_cons]
      exact List.append_ne_nil_of_left_ne_nil (decompose_ne_nil e) _

/-! ### What a character folds to is normal -/

/-- A character of a normalized text that folds does not decompose or is a composite. -/
theorem testBit_of_mem_nfkc {cs : List Char} : ∀ c ∈ nfkc cs, foldables.testBit c.toNat = true →
    decomposables.testBit c.toNat = false ∨ composites.testBit c.toNat = true := by
  apply forall_mem_nfkc
  · intro a b c hpair _ _ hfold
    rcases compose?_or_mem_of_composePair? hpair with hsyllable | hentry
    · rw [testBit_foldables_of_bounds (.inr (bounds_of_compose? hsyllable))] at hfold
      cases hfold
    · exact .inr (testBit_composites_of_mem hentry)
  · intro c _ d hd _
    exact .inl (testBit_decomposables_of_decompose (decompose_of_mem_decompose hd))

/-- What a character folds to does not fold. -/
theorem foldables_of_images :
    (foldingEntries.all fun entry => entry.2.all fun n => !foldables.testBit n) = true := by
  decide +kernel

theorem foldCase_of_forall {cs : List Char} (h : ∀ c ∈ cs, foldCharacter c = [c]) :
    foldCase cs = cs := by
  rw [foldCase_eq, List.flatMap_congr h, List.flatMap_singleton']

theorem foldCase_foldCharacter (c : Char) : foldCase (foldCharacter c) = foldCharacter c := by
  apply foldCase_of_forall
  intro d hd
  obtain ⟨n, hn, rfl⟩ := List.mem_map.1 hd
  apply foldCharacter_of_testBit
  rw [toNat_ofNat_of_mem_foldCodePoint hn]
  rcases foldCodePoint_cases c.toNat with ⟨hfold, hself⟩ | hentry
  · rw [hself, List.mem_singleton] at hn
    rw [hn, hfold]
  · have himages := List.all_eq_true.1 foldables_of_images _ hentry
    simpa using List.all_eq_true.1 himages n hn

/-- The folding of a code point, looked up only if it folds. -/
def foldingOf (n : Nat) : List Nat := bif foldables.testBit n then foldCodePoint n else [n]

theorem foldingOf_eq (n : Nat) : foldingOf n = foldCodePoint n := by
  cases h : foldables.testBit n with
  | false => rw [foldingOf, h, cond_false, foldCodePoint_of_testBit h]
  | true => rw [foldingOf, h, cond_true]

/-- Normalizing and folding the code points gives them back. -/
def isRefolded (codes : List Nat) : Bool :=
  (compose (orderMarks [] ((codes.flatMap decompositionOf).map Char.ofNat))).flatMap
    (fun c => foldingOf c.toNat) == codes

/-- What a code point folds to is one code point that does not decompose, or normalizing and folding
gives it back; that is so at least if the code point does not decompose or is a composite. -/
theorem isRefolded_of_foldingEntries : (foldingEntries.all fun entry =>
    decomposables.testBit entry.1 && !composites.testBit entry.1 ||
      entry.2.length == 1 && entry.2.flatMap decompositionOf == entry.2 ||
      isRefolded entry.2) = true := by decide +kernel

theorem nfkc_foldCharacter (c : Char) : nfkc (foldCharacter c) =
    compose (orderMarks [] (((foldCodePoint c.toNat).flatMap decompositionOf).map Char.ofNat)) := by
  rw [nfkc, flatMap_decompose_foldCharacter, funext decompositionOf_eq]

theorem nfkc_singleton {c : Char} (h : decompose c = [c]) : nfkc [c] = [c] := by
  have horder : orderMarks [] [c] = [c] := by
    rw [orderMarks]
    split_ifs <;> rfl
  rw [nfkc, List.flatMap_singleton, h, horder, compose]
  split_ifs <;> rfl

theorem foldCase_nfkc_of_isRefolded {c : Char} (h : isRefolded (foldCodePoint c.toNat) = true) :
    foldCase (nfkc (foldCharacter c)) = foldCharacter c := by
  rw [isRefolded, beq_iff_eq, ← nfkc_foldCharacter] at h
  simp only [foldingOf_eq] at h
  rw [foldCase, ← List.map_flatMap, h, foldCharacter]

/-- Normalizing and folding what a character of a normalized text folds to gives it back. -/
theorem foldCase_nfkc_foldCharacter {cs : List Char} {c : Char} (hc : c ∈ nfkc cs)
    (hfold : foldables.testBit c.toNat = true) :
    foldCase (nfkc (foldCharacter c)) = foldCharacter c := by
  rcases foldCodePoint_cases c.toNat with ⟨hnone, -⟩ | hentry
  · rw [hnone] at hfold
    cases hfold
  · have hrefolded := List.all_eq_true.1 isRefolded_of_foldingEntries _ hentry
    simp only [Bool.or_eq_true, Bool.and_eq_true, Bool.not_eq_true', beq_iff_eq] at hrefolded
    rcases hrefolded with (⟨hmem, hcomposite⟩ | ⟨hlength, hself⟩) | hrefolded
    · rcases testBit_of_mem_nfkc c hc hfold with hpiece | hpiece
      · rw [hmem] at hpiece
        cases hpiece
      · rw [hcomposite] at hpiece
        cases hpiece
    · obtain ⟨d, hd⟩ : ∃ d, foldCharacter c = [d] := List.length_eq_one_iff.1 (by
        rw [foldCharacter, List.length_map, hlength])
      have hdecompose : decompose d = [d] := by
        have hpieces := flatMap_decompose_foldCharacter c
        rw [← funext decompositionOf_eq, hself, ← foldCharacter, hd, List.flatMap_singleton]
          at hpieces
        exact hpieces
      have hrefold := foldCase_foldCharacter c
      rw [hd] at hrefold ⊢
      rw [nfkc_singleton hdecompose, hrefold]
    · exact foldCase_nfkc_of_isRefolded hrefolded

/-! ### Folding piece by piece -/

/-- No character stands behind another one and combines with it if one of the two folds. -/
def FoldsApart (cs : List Char) : Prop :=
  cs.IsChain fun a b => StartsAnew b ∨ foldCharacter a = [a] ∧ foldCharacter b = [b]

/-- Where nothing combines with anything in front of it, nothing folds next to what does. -/
theorem foldsApart_of_forall {cs : List Char} (h : ∀ c ∈ cs, StartsAnew c) : FoldsApart cs := by
  induction cs with
  | nil => exact .nil
  | cons c cs ih =>
    obtain ⟨-, hcs⟩ := List.forall_mem_cons.1 h
    exact List.isChain_cons.2 ⟨fun d hd => .inl (hcs d (List.mem_of_head? hd)), ih hcs⟩

theorem length_decompose_nfkc (cs : List Char) :
    ((nfkc cs).flatMap decompose).length = (cs.flatMap decompose).length := by
  have hnormal := (orderMarks_perm [] ((nfkc cs).flatMap decompose)).length_eq
  have hlength := (orderMarks_perm [] (cs.flatMap decompose)).length_eq
  rw [orderMarks_decompose_nfkc] at hnormal
  exact hnormal.symm.trans hlength

theorem eq_nil_of_length_decompose {xs ys : List Char}
    (h : ((xs ++ ys).flatMap decompose).length = (xs.flatMap decompose).length) : ys = [] := by
  cases ys with
  | nil => rfl
  | cons y ys =>
    have hpos := List.length_pos_of_ne_nil (decompose_ne_nil y)
    simp only [List.flatMap_append, List.flatMap_cons, List.length_append] at h
    omega

/-- If two pieces are normal when they are put together, without combining, then each of them is. -/
theorem nfkc_eq_of_append {xs ys : List Char} (h : nfkc xs ++ nfkc ys = xs ++ ys) :
    nfkc xs = xs ∧ nfkc ys = ys := by
  have hxs : nfkc xs = xs := by
    have hlength := length_decompose_nfkc xs
    rcases List.append_eq_append_iff.1 h with ⟨rest, hrest, -⟩ | ⟨rest, hrest, -⟩
    · have hnil := @eq_nil_of_length_decompose (nfkc xs) rest (by rw [← hrest, hlength])
      rw [hnil, List.append_nil] at hrest
      exact hrest.symm
    · have hnil := @eq_nil_of_length_decompose xs rest (by rw [← hrest, hlength])
      rwa [hnil, List.append_nil] at hrest
  rw [hxs] at h
  exact ⟨hxs, List.append_cancel_left h⟩

theorem foldCase_append (xs ys : List Char) : foldCase (xs ++ ys) = foldCase xs ++ foldCase ys :=
  List.flatMap_append

section Pieces

variable {xs ys : List Char} (hheads : ∀ c ∈ ys, HasFreshHead c) (h : ∀ c ∈ ys.head?, StartsAnew c)
include hheads h

theorem nfkc_eq_of_append_of_startsAnew (hnormal : nfkc (xs ++ ys) = xs ++ ys) :
    nfkc xs = xs ∧ nfkc ys = ys := by
  rw [nfkc_append xs (startsAnew_of_mem_head? hheads h)] at hnormal
  exact nfkc_eq_of_append hnormal

theorem foldCase_nfkc_foldCase_append (hxs : foldCase (nfkc (foldCase xs)) = foldCase xs)
    (hys : foldCase (nfkc (foldCase ys)) = foldCase ys) :
    foldCase (nfkc (foldCase (xs ++ ys))) = foldCase (xs ++ ys) := by
  rw [foldCase_append, nfkc_append _ (startsAnew_of_mem_head?_foldCase hheads h), foldCase_append,
    hxs, hys]

end Pieces

/-- A character that folds parts the text: nothing behind it combines with it, nor does it combine
with anything in front of it. -/
theorem FoldsApart.cut {before after : List Char} {c : Char} (h : FoldsApart (before ++ c :: after))
    (hfold : foldCharacter c ≠ [c]) : FoldsApart before ∧ FoldsApart after ∧
      (before = [] ∨ ∀ d ∈ (c :: after).head?, StartsAnew d) ∧ ∀ d ∈ after.head?, StartsAnew d := by
  obtain ⟨hbefore, hafter, hlast⟩ := List.isChain_append.1 h
  obtain ⟨hnext, hafter⟩ := List.isChain_cons.1 hafter
  refine ⟨hbefore, hafter, ?_, fun d hd => (hnext d hd).resolve_right fun hsame => hfold hsame.1⟩
  rcases List.eq_nil_or_concat before with rfl | ⟨_, last, rfl⟩
  · exact .inl rfl
  · refine .inr fun d hd => (hlast last (by simp) d hd).resolve_right fun hsame => ?_
    obtain rfl : c = d := Option.some.inj hd
    exact hfold hsame.2

/-- Where no character folds next to one that combines with it, folding the normal form of a folded
text gives the folded text back. -/
theorem foldCase_nfkc_foldCase {cs : List Char} (hnormal : nfkc cs = cs) (h : FoldsApart cs) :
    foldCase (nfkc (foldCase cs)) = foldCase cs := by
  induction hlength : cs.length using Nat.strong_induction_on generalizing cs with
  | _ length ih =>
    subst hlength
    by_cases hall : ∀ c ∈ cs, foldCharacter c = [c]
    · rw [foldCase_of_forall hall, hnormal, foldCase_of_forall hall]
    · obtain ⟨c, hc, hfold⟩ : ∃ c ∈ cs, foldCharacter c ≠ [c] := by simpa using hall
      have hheads : ∀ d ∈ cs, HasFreshHead d := by
        rw [← hnormal]
        exact hasFreshHead_of_mem_nfkc
      have hself : foldCase (nfkc (foldCharacter c)) = foldCharacter c := by
        apply foldCase_nfkc_foldCharacter
        · rwa [hnormal]
        · by_contra hnone
          exact hfold (foldCharacter_of_testBit (by simpa using hnone))
      obtain ⟨before, after, rfl⟩ := List.append_of_mem hc
      obtain ⟨-, hheads⟩ := List.forall_mem_append.1 hheads
      obtain ⟨hbefore, hafter, hfresh, hfreshAfter⟩ := h.cut hfold
      obtain ⟨hnormalBefore, hnormalRest⟩ : nfkc before = before ∧
          nfkc ([c] ++ after) = [c] ++ after := by
        rcases hfresh with rfl | hfresh
        · exact ⟨rfl, hnormal⟩
        · exact nfkc_eq_of_append_of_startsAnew hheads hfresh hnormal
      obtain ⟨-, hheadsAfter⟩ := List.forall_mem_cons.1 hheads
      obtain ⟨-, hnormalAfter⟩ :=
        nfkc_eq_of_append_of_startsAnew hheadsAfter hfreshAfter hnormalRest
      have hrest : foldCase (nfkc (foldCase ([c] ++ after))) = foldCase ([c] ++ after) := by
        apply foldCase_nfkc_foldCase_append hheadsAfter hfreshAfter
        · rwa [foldCase_eq [c], List.flatMap_singleton]
        · exact ih _ (by simp; omega) hnormalAfter hafter rfl
      rcases hfresh with rfl | hfresh
      · exact hrest
      · exact foldCase_nfkc_foldCase_append hheads hfresh
          (ih _ (by simp) hnormalBefore hbefore rfl) hrest

end GridAuthz.Text
