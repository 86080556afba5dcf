import GridAuthz.Proofs.Text.CanonicalOrder
import GridAuthz.Proofs.Text.Composites

/-!
# Normalized texts are normal

Composition can be undone: what a composed text decomposes into is the text that was composed, up to
canonical order (`orderMarks_decompose_compose`). So a normalized text decomposes into the same
characters, in the same canonical order, as the text that was normalized
(`orderMarks_decompose_nfkc`), and normalizing it again changes nothing (`nfkc_nfkc`).
-/

namespace GridAuthz.Text

theorem flatMap_decompose_eq_self {cs : List Char} (h : ∀ c ∈ cs, decompose c = [c]) :
    cs.flatMap decompose = cs := by
  induction cs with
  | nil => rfl
  | cons c cs ih =>
    obtain ⟨hc, hcs⟩ := List.forall_mem_cons.1 h
    rw [List.flatMap_cons, hc, ih hcs, List.singleton_append]

/-! ### Undoing composition -/

/-- What is known while a text is composed: the marks held back are below the class of the last one
of them, which is not above that of the mark that comes next. -/
structure Holds (held : List Char) (lastClass : Option Nat) (cs : List Char) : Prop where
  /-- Only marks are held back, and none with a class above that of the last one. -/
  marks : ∀ m ∈ held, combiningClass m ≠ 0 ∧ ∃ last ∈ lastClass, combiningClass m ≤ last
  /-- What comes next is a starter, or its class is not below that of the last mark. -/
  next : ∀ last ∈ lastClass, ∀ c ∈ cs.head?, combiningClass c = 0 ∨ last ≤ combiningClass c

theorem Holds.nil (cs : List Char) : Holds [] none cs :=
  ⟨List.forall_mem_nil _, fun _ h => absurd h (Option.not_mem_none _)⟩

/-- A character that composes is above all marks held back. -/
theorem Holds.skip {held cs : List Char} {lastClass : Option Nat} {c : Char}
    (h : Holds held lastClass (c :: cs)) (hchain : (c :: cs).IsChain CanFollow)
    (hfree : lastClass.any (combiningClass c ≤ ·) = false) :
    Holds held lastClass cs ∧
      (held = [] ∨ combiningClass c ≠ 0 ∧
        ∀ m ∈ held, combiningClass m ≠ 0 ∧ combiningClass m ≠ combiningClass c) := by
  have habove : ∀ last ∈ lastClass, last < combiningClass c := by
    intro last hlast
    obtain rfl := Option.mem_def.1 hlast
    simpa using hfree
  refine ⟨⟨h.marks, fun last hlast d hd => ?_⟩, ?_⟩
  · have := habove last hlast
    rcases (List.isChain_cons.1 hchain).1 d hd with hstarter | hle
    · exact .inl hstarter
    · exact .inr (by omega)
  · cases held with
    | nil => exact .inl rfl
    | cons m held =>
      obtain ⟨-, last, hlast, -⟩ := h.marks m List.mem_cons_self
      have hlt := habove last hlast
      refine .inr ⟨by omega, fun b hb => ?_⟩
      obtain ⟨hne, last', hlast', hle⟩ := h.marks b hb
      have := habove last' hlast'
      exact ⟨hne, by omega⟩

/-- A mark that does not compose is held back, and is the last one then. -/
theorem Holds.hold {held cs : List Char} {lastClass : Option Nat} {c : Char}
    (h : Holds held lastClass (c :: cs)) (hchain : (c :: cs).IsChain CanFollow)
    (hc : combiningClass c ≠ 0) : Holds (held ++ [c]) (some (combiningClass c)) cs := by
  constructor
  · intro m hm
    rcases List.mem_append.1 hm with hm | hm
    · obtain ⟨hne, last, hlast, hle⟩ := h.marks m hm
      have hnext := (h.next last hlast c rfl).resolve_left hc
      exact ⟨hne, _, rfl, hle.trans hnext⟩
    · obtain rfl := List.mem_singleton.1 hm
      exact ⟨hc, _, rfl, Nat.le_refl _⟩
  · intro last hlast d hd
    obtain rfl := Option.mem_some_iff.1 hlast
    exact (List.isChain_cons.1 hchain).1 d hd

theorem orderMarks_decompose_composeAfter {starter : Char} {held cs : List Char}
    {lastClass : Option Nat} (hpieces : ∀ c ∈ held ++ cs, decompose c = [c])
    (hchain : cs.IsChain CanFollow) (hholds : Holds held lastClass cs) :
    orderMarks [] ((composeAfter starter held lastClass cs).flatMap decompose) =
      orderMarks [] (decompose starter ++ (held ++ cs)) := by
  induction cs generalizing starter held lastClass with
  | nil =>
    rw [composeAfter, List.flatMap_cons, List.append_nil]
    rw [List.append_nil] at hpieces
    rw [flatMap_decompose_eq_self hpieces]
  | cons c cs ih =>
    obtain ⟨hheld, hccs⟩ := List.forall_mem_append.1 hpieces
    obtain ⟨hc, hcs⟩ := List.forall_mem_cons.1 hccs
    have htail := (List.isChain_cons.1 hchain).2
    rw [composeAfter]
    split
    · rename_i composite hjoined
      split_ifs at hjoined with hblocked
      obtain ⟨hholds', hmove⟩ := hholds.skip hchain (by simpa using hblocked)
      rw [ih (List.forall_mem_append.2 ⟨hheld, hcs⟩) htail hholds',
        decompose_of_composePair? hjoined, List.append_assoc, List.singleton_append]
      rcases hmove with rfl | ⟨hne, hmove⟩
      · rfl
      · exact orderMarks_append_of_forall (fun marks => orderMarks_cons_append hne hmove marks cs)
          (decompose starter) []
    · split_ifs with hstarter
      · have hrest := @ih c [] none hcs htail (.nil cs)
        rw [hc, List.nil_append, List.singleton_append] at hrest
        rw [List.flatMap_cons, List.flatMap_append, flatMap_decompose_eq_self hheld,
          ← List.append_assoc, ← List.append_assoc]
        exact orderMarks_append_congr hrest _ []
      · have hpieces' : ∀ d ∈ (held ++ [c]) ++ cs, decompose d = [d] := by
          rw [List.append_assoc, List.singleton_append]
          exact hpieces
        rw [ih hpieces' htail (hholds.hold hchain hstarter), List.append_assoc held,
          List.singleton_append]

/-- What a composed text decomposes into is the text that was composed, up to canonical order. -/
theorem orderMarks_decompose_compose {cs : List Char} (hpieces : ∀ c ∈ cs, decompose c = [c])
    (hchain : cs.IsChain CanFollow) :
    orderMarks [] ((compose cs).flatMap decompose) = orderMarks [] cs := by
  induction cs with
  | nil => rfl
  | cons c cs ih =>
    obtain ⟨hc, hcs⟩ := List.forall_mem_cons.1 hpieces
    have htail := (List.isChain_cons.1 hchain).2
    rw [compose]
    split_ifs
    · have hrest := @orderMarks_decompose_composeAfter c [] cs none hcs htail (.nil cs)
      rwa [hc] at hrest
    · rw [List.flatMap_cons, hc]
      exact orderMarks_append_congr (ih hcs htail) [c] []

/-! ### Normalization -/

/-- A normalized text decomposes into what the text that was normalized does. -/
theorem orderMarks_decompose_nfkc (cs : List Char) :
    orderMarks [] ((nfkc cs).flatMap decompose) = orderMarks [] (cs.flatMap decompose) := by
  have hpieces : ∀ c ∈ orderMarks [] (cs.flatMap decompose), decompose c = [c] := by
    intro c hc
    rw [(orderMarks_perm [] _).mem_iff, List.nil_append] at hc
    obtain ⟨_, -, hmem⟩ := List.mem_flatMap.1 hc
    exact decompose_of_mem_decompose hmem
  rw [nfkc, orderMarks_decompose_compose hpieces (isChain_orderMarks inOrder_nil _),
    orderMarks_orderMarks inOrder_nil, List.nil_append]

/-- The same characters stand in a text and in its normal form, once both are decomposed. -/
theorem mem_decompose_nfkc_iff {cs : List Char} {d : Char} :
    d ∈ (nfkc cs).flatMap decompose ↔ d ∈ cs.flatMap decompose := by
  have hnormal := (orderMarks_perm [] ((nfkc cs).flatMap decompose)).mem_iff (a := d)
  have hmem := (orderMarks_perm [] (cs.flatMap decompose)).mem_iff (a := d)
  rw [orderMarks_decompose_nfkc] at hnormal
  exact hnormal.symm.trans hmem

/-- Texts that decompose into the same have the same normal form. -/
theorem nfkc_congr {xs ys : List Char}
    (h : orderMarks [] (xs.flatMap decompose) = orderMarks [] (ys.flatMap decompose)) :
    nfkc xs = nfkc ys := congrArg compose h

/-- Normalizing a normalized text changes nothing. -/
theorem nfkc_nfkc (cs : List Char) : nfkc (nfkc cs) = nfkc cs :=
  nfkc_congr (orderMarks_decompose_nfkc cs)

end GridAuthz.Text
