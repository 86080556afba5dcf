import Mathlib.Data.List.TakeWhile
import GridAuthz.Pem
import GridAuthz.Proofs.Steps

/-!
# How blocks are found

A marker is found by reading a text once from left to right. Where it is found it stands
(`Pem.splitAtMarker?_eq_some_iff`), and what follows a text does not change what is found in it
(`Pem.afterMarker?_append`). What does not hold the first character of a marker is passed over
(`Pem.afterMarker?_append_of_notMem`), and so is a text without a marker if a character comes after it
that is not in the marker (`Pem.afterMarker?_append_cons`).

A block is found by its markers (`Pem.nextBlock?_eq_some_iff`), so all that counts of a text is what
follows its first marker (`Pem.rawBlocks_congr`). The occurrences of a pattern are counted without the
scanner, and they add up where no pattern can stand across (`Pem.occurrences_append_cons`).
-/

namespace GridAuthz.Pem

/-! ### Markers -/

section Marker

variable {marker pending cs before rest : List Char}

theorem afterMarker?_self_append (marker pending rest : List Char) :
    afterMarker? marker pending (pending ++ rest) = some rest := by
  induction pending with
  | nil => rw [List.nil_append, afterMarker?]
  | cons p pending ih => rw [List.cons_append, afterMarker?, if_pos rfl, ih]

/-- What is found in a text is found there whatever follows. -/
theorem afterMarker?_append (h : afterMarker? marker pending cs = some rest) (ds : List Char) :
    afterMarker? marker pending (cs ++ ds) = some (rest ++ ds) := by
  induction cs generalizing pending with
  | nil =>
    cases pending with
    | nil =>
      cases h
      rw [afterMarker?]
    | cons p pending => simp [afterMarker?] at h
  | cons c cs ih =>
    cases pending with
    | nil =>
      cases h
      rw [afterMarker?]
    | cons p pending =>
      rw [afterMarker?] at h
      rw [List.cons_append, afterMarker?]
      split_ifs at h ⊢ with hc
      · exact ih h
      · exact ih h

/-- Where a marker is found, it stands. -/
theorem exists_of_afterMarker? (h : afterMarker? marker pending cs = some rest) :
    ∃ taken, cs = taken ++ rest ∧ (taken = pending ∨ marker <:+ taken) := by
  induction cs generalizing pending with
  | nil =>
    cases pending with
    | nil =>
      cases h
      exact ⟨[], rfl, .inl rfl⟩
    | cons p pending => simp [afterMarker?] at h
  | cons c cs ih =>
    cases pending with
    | nil =>
      cases h
      exact ⟨[], rfl, .inl rfl⟩
    | cons p pending =>
      rw [afterMarker?] at h
      split_ifs at h with hc
      · obtain ⟨taken, rfl, htaken | htaken⟩ := ih h
        · exact ⟨c :: taken, rfl, .inl (by rw [hc, htaken])⟩
        · exact ⟨c :: taken, rfl, .inr (htaken.trans (List.suffix_cons ..))⟩
      · obtain ⟨taken, rfl, htaken | htaken⟩ := ih h
        · exact ⟨c :: taken, rfl, .inr (htaken ▸ List.suffix_cons ..)⟩
        · exact ⟨c :: taken, rfl, .inr (htaken.trans (List.suffix_cons ..))⟩

theorem splitAtMarker?_eq_some_iff : splitAtMarker? marker cs = some (before, rest) ↔
    afterMarker? marker marker cs = some rest ∧ cs = before ++ marker ++ rest := by
  have htake : ∀ taken : List Char,
      (taken ++ marker ++ rest).take ((taken ++ marker ++ rest).length - rest.length -
        marker.length) = taken := by
    intro taken
    rw [List.append_assoc]
    exact List.take_left' (by simp only [List.length_append]; omega)
  rw [splitAtMarker?, Option.map_eq_some_iff]
  constructor
  · rintro ⟨rest', h, heq⟩
    obtain ⟨hbefore, rfl⟩ := Prod.mk.inj heq
    obtain ⟨taken, hcs, htaken⟩ := exists_of_afterMarker? h
    obtain ⟨taken, rfl⟩ : marker <:+ taken := htaken.elim (fun h => h ▸ List.suffix_rfl) id
    refine ⟨h, ?_⟩
    rw [hcs, htake] at hbefore
    rw [hcs, hbefore]
  · rintro ⟨h, rfl⟩
    exact ⟨rest, h, by rw [htake]⟩

theorem exists_splitAtMarker? (h : afterMarker? marker marker cs = some rest) :
    ∃ before, splitAtMarker? marker cs = some (before, rest) :=
  ⟨_, Option.map_eq_some_iff.2 ⟨rest, h, rfl⟩⟩

theorem splitAtMarker?_append (h : splitAtMarker? marker cs = some (before, rest))
    (ds : List Char) : splitAtMarker? marker (cs ++ ds) = some (before, rest ++ ds) := by
  obtain ⟨hafter, rfl⟩ := splitAtMarker?_eq_some_iff.1 h
  exact splitAtMarker?_eq_some_iff.2 ⟨afterMarker?_append hafter ds, List.append_assoc ..⟩

/-- What does not hold the first character of a marker is passed over. -/
theorem afterMarker?_append_of_notMem {p : Char} {ps : List Char} (h : p ∉ cs) (ds : List Char) :
    afterMarker? (p :: ps) (p :: ps) (cs ++ ds) = afterMarker? (p :: ps) (p :: ps) ds := by
  induction cs with
  | nil => rfl
  | cons c cs ih =>
    rw [List.mem_cons, not_or] at h
    rw [List.cons_append, afterMarker?, if_neg (Ne.symm h.1), ih h.2]

theorem splitAtMarker?_append_of_notMem {p : Char} {ps : List Char} (h : p ∉ before)
    (rest : List Char) :
    splitAtMarker? (p :: ps) (before ++ (p :: ps) ++ rest) = some (before, rest) := by
  refine splitAtMarker?_eq_some_iff.2 ⟨?_, rfl⟩
  rw [List.append_assoc, afterMarker?_append_of_notMem h, afterMarker?_self_append]

/-- A text without a marker is passed over up to the next character that is not in the marker. -/
theorem afterMarker?_append_cons {c : Char} (hc : c ∉ marker) (hpending : pending ⊆ marker)
    (h : afterMarker? marker pending cs = none) (ds : List Char) :
    afterMarker? marker pending (cs ++ c :: ds) = afterMarker? marker marker ds := by
  induction cs generalizing pending with
  | nil =>
    cases pending with
    | nil => simp [afterMarker?] at h
    | cons p pending =>
      have hne : c ≠ p := by
        rintro rfl
        exact hc (hpending (List.mem_cons_self ..))
      rw [List.nil_append, afterMarker?, if_neg hne]
  | cons d cs ih =>
    cases pending with
    | nil => simp [afterMarker?] at h
    | cons p pending =>
      rw [afterMarker?] at h
      rw [List.cons_append, afterMarker?]
      split_ifs at h ⊢ with hd
      · exact ih (fun _ hx => hpending (List.mem_cons_of_mem _ hx)) h
      · exact ih (List.Subset.refl _) h

end Marker

/-! ### White space -/

/-- No white space that is skipped starts a marker. -/
theorem exists_skipBlanks (cs : List Char) :
    ∃ blanks, '-' ∉ blanks ∧ cs = blanks ++ skipBlanks cs := by
  refine ⟨_, fun hmem => ?_, List.takeWhile_append_dropWhile.symm⟩
  have hblank := List.mem_takeWhile_imp hmem
  contradiction

theorem skipBlanks_append_of_eq_nil {cs : List Char} (h : skipBlanks cs = []) (ds : List Char) :
    skipBlanks (cs ++ ds) = skipBlanks ds := by
  rw [skipBlanks, List.dropWhile_append, if_pos (by simpa [skipBlanks] using h), skipBlanks]

theorem skipBlanks_append {cs : List Char} (h : skipBlanks cs ≠ []) (ds : List Char) :
    skipBlanks (cs ++ ds) = skipBlanks cs ++ ds := by
  rw [skipBlanks, List.dropWhile_append, if_neg (by simpa [skipBlanks] using h), skipBlanks]

/-! ### Blocks -/

/-- The characters of a block that is found, with the white space between its first line and what it
holds. -/
def RawBlock.chars (block : RawBlock) (blanks : List Char) : List Char :=
  beginMarker ++ block.beginLabel ++ dashes ++ blanks ++ block.body ++ endMarker ++
    block.endLabel ++ dashes

section Block

variable {cs ds rest : List Char} {block : RawBlock}

/-- A block is found by its markers, one after the other. -/
theorem nextBlock?_eq_some_iff :
    nextBlock? cs = some (block, rest) ↔ ∃ r₁ r₂ r₃ r₄,
      afterMarker? beginMarker beginMarker cs = some r₁ ∧
      splitAtMarker? dashes r₁ = some (block.beginLabel, r₂) ∧
      splitAtMarker? endMarker (skipBlanks r₂) = some (block.body, r₃) ∧
      splitAtMarker? dashes r₃ = some (block.endLabel, r₄) ∧ skipBlanks r₄ = rest := by
  simp only [nextBlock?, Option.bind_eq_bind, Option.bind_eq_some_iff, Prod.exists,
    Option.pure_def, Option.some.injEq, Prod.mk.injEq]
  constructor
  · rintro ⟨_, r₁, h₁, _, r₂, h₂, _, r₃, h₃, _, r₄, h₄, rfl, rfl⟩
    exact ⟨r₁, r₂, r₃, r₄, (splitAtMarker?_eq_some_iff.1 h₁).1, h₂, h₃, h₄, rfl⟩
  · rintro ⟨r₁, r₂, r₃, r₄, h₁, h₂, h₃, h₄, rfl⟩
    obtain ⟨before, h₁⟩ := exists_splitAtMarker? h₁
    exact ⟨before, r₁, h₁, _, r₂, h₂, _, r₃, h₃, _, r₄, h₄, rfl, rfl⟩

/-- What follows a text does not change the block that is found in it. -/
theorem exists_nextBlock?_append (h : nextBlock? cs = some (block, rest)) :
    ∃ last, skipBlanks last = rest ∧
      ∀ ds, nextBlock? (cs ++ ds) = some (block, skipBlanks (last ++ ds)) := by
  obtain ⟨r₁, r₂, r₃, r₄, h₁, h₂, h₃, h₄, hrest⟩ := nextBlock?_eq_some_iff.1 h
  refine ⟨r₄, hrest, fun ds => nextBlock?_eq_some_iff.2 ⟨r₁ ++ ds, r₂ ++ ds, r₃ ++ ds, r₄ ++ ds,
    afterMarker?_append h₁ ds, splitAtMarker?_append h₂ ds, ?_, splitAtMarker?_append h₄ ds, rfl⟩⟩
  have hne : skipBlanks r₂ ≠ [] := by
    intro hnil
    have hnone : splitAtMarker? endMarker [] = none := rfl
    rw [hnil, hnone] at h₃
    contradiction
  rw [skipBlanks_append hne]
  exact splitAtMarker?_append h₃ ds

/-- A block that is found stands in the text. -/
theorem exists_chars_of_nextBlock? (h : nextBlock? cs = some (block, rest)) :
    ∃ gap blanks blanks', cs = gap ++ block.chars blanks ++ blanks' ++ rest := by
  obtain ⟨r₁, r₂, r₃, r₄, h₁, h₂, h₃, h₄, rfl⟩ := nextBlock?_eq_some_iff.1 h
  obtain ⟨gap, hbegin⟩ := exists_splitAtMarker? h₁
  obtain ⟨blanks, -, hblanks⟩ := exists_skipBlanks r₂
  obtain ⟨blanks', -, hend⟩ := exists_skipBlanks r₄
  refine ⟨gap, blanks, blanks', ?_⟩
  calc cs
    _ = gap ++ beginMarker ++ r₁ := (splitAtMarker?_eq_some_iff.1 hbegin).2
    _ = gap ++ beginMarker ++ (block.beginLabel ++ dashes ++ r₂) := by
      rw [← (splitAtMarker?_eq_some_iff.1 h₂).2]
    _ = gap ++ beginMarker ++ (block.beginLabel ++ dashes ++
          (blanks ++ (block.body ++ endMarker ++ r₃))) := by
      rw [← (splitAtMarker?_eq_some_iff.1 h₃).2, ← hblanks]
    _ = gap ++ beginMarker ++ (block.beginLabel ++ dashes ++
          (blanks ++ (block.body ++ endMarker ++ (block.endLabel ++ dashes ++
            (blanks' ++ skipBlanks r₄))))) := by
      rw [← hend, ← (splitAtMarker?_eq_some_iff.1 h₄).2]
    _ = _ := by simp only [RawBlock.chars, List.append_assoc]

theorem rawBlocks_of_none (h : nextBlock? cs = none) : rawBlocks cs = [] := by
  rw [rawBlocks]
  split
  · rfl
  · simp_all

theorem rawBlocks_of_some (h : nextBlock? cs = some (block, rest)) :
    rawBlocks cs = block :: rawBlocks rest := by
  rw [rawBlocks]
  split
  · simp_all
  · rename_i block' rest' h'
    rw [h'] at h
    obtain ⟨rfl, rfl⟩ := Prod.mk.inj (Option.some.inj h)
    rfl

/-- Only what follows the first marker counts. -/
theorem rawBlocks_congr
    (h : afterMarker? beginMarker beginMarker cs = afterMarker? beginMarker beginMarker ds) :
    rawBlocks cs = rawBlocks ds := by
  have hnext : nextBlock? cs = nextBlock? ds := by
    apply Option.ext
    rintro ⟨block, rest⟩
    rw [nextBlock?_eq_some_iff, nextBlock?_eq_some_iff, h]
  cases hds : nextBlock? ds with
  | none => rw [rawBlocks_of_none hds, rawBlocks_of_none (hnext.trans hds)]
  | some found => rw [rawBlocks_of_some hds, rawBlocks_of_some (hnext.trans hds)]

theorem rawBlocks_skipBlanks (cs : List Char) : rawBlocks (skipBlanks cs) = rawBlocks cs := by
  obtain ⟨blanks, hblanks, hcs⟩ := exists_skipBlanks cs
  have hpassed : afterMarker? beginMarker beginMarker (blanks ++ skipBlanks cs) =
      afterMarker? beginMarker beginMarker (skipBlanks cs) :=
    afterMarker?_append_of_notMem hblanks _
  rw [← hcs] at hpassed
  exact rawBlocks_congr hpassed.symm

end Block

/-! ### Counting -/

section Occurrences

variable {pattern : List Char}

theorem occurrences_append_le (hne : pattern ≠ []) (cs ds : List Char) :
    occurrences pattern cs + occurrences pattern ds ≤ occurrences pattern (cs ++ ds) := by
  induction cs with
  | nil => simp [occurrences, hne]
  | cons c cs ih =>
    have hstands : pattern.isPrefixOf (c :: cs) → pattern.isPrefixOf (c :: (cs ++ ds)) := by
      simp only [List.isPrefixOf_iff_prefix]
      intro h
      exact h.trans (List.prefix_append (c :: cs) ds)
    rw [List.cons_append, occurrences, occurrences]
    split_ifs with h h'
    · omega
    · exact absurd (hstands h) h'
    all_goals omega

theorem occurrences_pos {cs : List Char} (hne : pattern ≠ []) (h : pattern <:+: cs) :
    0 < occurrences pattern cs := by
  obtain ⟨before, after, rfl⟩ := h
  have hself : 0 < occurrences pattern pattern := by
    obtain ⟨p, ps, rfl⟩ := List.exists_cons_of_ne_nil hne
    rw [occurrences, if_pos (List.isPrefixOf_iff_prefix.2 List.prefix_rfl)]
    omega
  have hbefore := occurrences_append_le hne before pattern
  have hafter := occurrences_append_le hne (before ++ pattern) after
  omega

/-- No pattern stands across a character that is not in it. -/
theorem prefix_append_cons_iff {c : Char} (hc : c ∉ pattern) {cs ds : List Char} :
    pattern <+: cs ++ c :: ds ↔ pattern <+: cs := by
  constructor
  · intro h
    rcases List.prefix_or_prefix_of_prefix h (List.prefix_append cs (c :: ds)) with h' | ⟨rest, hrest⟩
    · exact h'
    · rw [← hrest, List.prefix_append_right_inj] at h
      cases rest with
      | nil =>
        rw [List.append_nil] at hrest
        exact hrest ▸ List.prefix_rfl
      | cons d rest =>
        rw [List.cons_prefix_cons] at h
        exact absurd (by rw [← hrest, h.1]; simp) hc
  · intro h
    exact h.trans (List.prefix_append ..)

theorem occurrences_append_cons (hne : pattern ≠ []) {c : Char} (hc : c ∉ pattern)
    (cs ds : List Char) :
    occurrences pattern (cs ++ c :: ds) = occurrences pattern cs + occurrences pattern ds := by
  have hstands : ∀ cs, pattern.isPrefixOf (cs ++ c :: ds) = pattern.isPrefixOf cs := by
    intro cs
    rw [Bool.eq_iff_iff, List.isPrefixOf_iff_prefix, List.isPrefixOf_iff_prefix,
      prefix_append_cons_iff hc]
  induction cs with
  | nil =>
    have hnil := hstands []
    rw [List.nil_append] at hnil
    simp [occurrences, hnil, hne]
  | cons e cs ih =>
    have hcons := hstands (e :: cs)
    rw [List.cons_append] at hcons ⊢
    rw [occurrences, occurrences, hcons, ih, Nat.add_assoc]

/-- What does not hold the first character of a pattern does not count. -/
theorem occurrences_append_of_notMem {p : Char} {ps cs : List Char} (h : p ∉ cs) (ds : List Char) :
    occurrences (p :: ps) (cs ++ ds) = occurrences (p :: ps) ds := by
  induction cs with
  | nil => rfl
  | cons c cs ih =>
    rw [List.mem_cons, not_or] at h
    have hstands : (p :: ps).isPrefixOf (c :: (cs ++ ds)) = false := by
      rw [List.isPrefixOf, beq_false_of_ne h.1, Bool.false_and]
    rw [List.cons_append, occurrences, hstands, ih h.2]
    simp

end Occurrences

/-! ### Reading -/

theorem read_eq_ok_iff {text : String} {blocks : List PemBlock} : read text = .ok blocks ↔
    List.Forall₂ (fun raw block => raw.read = .ok block) (rawBlocks text.toList) blocks ∧
      occurrences beginMarker text.toList = blocks.length := by
  rw [read, bind_eq_ok_iff]
  simp only [mapM_eq_ok_iff_forall₂]
  constructor
  · rintro ⟨found, hfound, h⟩
    split_ifs at h with hcount
    cases h
    exact ⟨hfound, hcount⟩
  · rintro ⟨hfound, hcount⟩
    exact ⟨blocks, hfound, by rw [if_pos hcount]⟩

end GridAuthz.Pem
