import Mathlib.Data.List.Chain
import GridAuthz.Proofs.Text.Normalization

/-!
# Canonical order

Two marks of different classes may stand in either order: both are sorted to the same text
(`insertMark_comm`, `orderMarks_cons_append`). So a part of a text may be put into canonical order
beforehand (`orderMarks_orderMarks`), and be replaced by another part that has the same order
(`orderMarks_append_congr`).
-/

namespace GridAuthz.Text

/-! ### One mark -/

@[simp] theorem insertMark_nil (c : Char) : insertMark c [] = [c] := rfl

theorem insertMark_cons (c m : Char) (marks : List Char) :
    insertMark c (m :: marks) =
      if combiningClass m ≤ combiningClass c then m :: insertMark c marks else c :: m :: marks := by
  simp only [insertMark, List.span_eq_takeWhile_dropWhile]
  split_ifs with h
  · rw [List.takeWhile_cons_of_pos (by simpa using h), List.dropWhile_cons_of_pos (by simpa using h),
      List.cons_append]
  · rw [List.takeWhile_cons_of_neg (by simpa using h), List.dropWhile_cons_of_neg (by simpa using h),
      List.nil_append]

/-- It does not matter which of two marks of different classes is put in its place first. -/
theorem insertMark_comm {c d : Char} (h : combiningClass c ≠ combiningClass d)
    (marks : List Char) :
    insertMark c (insertMark d marks) = insertMark d (insertMark c marks) := by
  induction marks with
  | nil =>
    rw [insertMark_nil, insertMark_nil, insertMark_cons, insertMark_cons]
    split_ifs
    · omega
    · rfl
    · rfl
    · omega
  | cons m marks ih =>
    rw [insertMark_cons, insertMark_cons]
    split_ifs with hd hc hc
    · rw [insertMark_cons, insertMark_cons, if_pos hc, if_pos hd, ih]
    · have hcd : combiningClass c ≤ combiningClass d := by omega
      rw [insertMark_cons, if_neg hc, insertMark_cons, if_pos hcd, insertMark_cons, if_pos hd]
    · have hdc : combiningClass d ≤ combiningClass c := by omega
      rw [insertMark_cons, if_pos hdc, insertMark_cons, if_pos hc, insertMark_cons, if_neg hd]
    · rw [insertMark_cons, insertMark_cons, insertMark_cons, insertMark_cons, if_neg hc, if_neg hd]
      split_ifs
      · omega
      · rfl
      · rfl
      · omega

/-! ### Marks in order -/

/-- Marks, and no starters, in canonical order. -/
structure InOrder (marks : List Char) : Prop where
  /-- No mark has a class above one behind it. -/
  sorted : marks.Pairwise fun a b => combiningClass a ≤ combiningClass b
  /-- None of them is a starter. -/
  ne_zero : ∀ m ∈ marks, combiningClass m ≠ 0

theorem inOrder_nil : InOrder [] := ⟨.nil, List.forall_mem_nil _⟩

theorem inOrder_cons {m : Char} {marks : List Char} : InOrder (m :: marks) ↔
    combiningClass m ≠ 0 ∧ (∀ b ∈ marks, combiningClass m ≤ combiningClass b) ∧ InOrder marks := by
  constructor
  · rintro ⟨hsorted, hmarks⟩
    obtain ⟨hle, hsorted⟩ := List.pairwise_cons.1 hsorted
    obtain ⟨hm, hmarks⟩ := List.forall_mem_cons.1 hmarks
    exact ⟨hm, hle, hsorted, hmarks⟩
  · rintro ⟨hm, hle, hsorted, hmarks⟩
    exact ⟨List.pairwise_cons.2 ⟨hle, hsorted⟩, List.forall_mem_cons.2 ⟨hm, hmarks⟩⟩

theorem InOrder.insertMark {c : Char} {marks : List Char} (h : InOrder marks)
    (hc : combiningClass c ≠ 0) : InOrder (insertMark c marks) := by
  induction marks with
  | nil => exact inOrder_cons.2 ⟨hc, List.forall_mem_nil _, inOrder_nil⟩
  | cons m marks ih =>
    obtain ⟨hm, hle, hmarks⟩ := inOrder_cons.1 h
    rw [insertMark_cons]
    split_ifs with hmc
    · refine inOrder_cons.2 ⟨hm, fun b hb => ?_, ih hmarks⟩
      rcases List.mem_cons.1 ((insertMark_perm c marks).mem_iff.1 hb) with rfl | hb
      · exact hmc
      · exact hle b hb
    · refine inOrder_cons.2 ⟨hc, fun b hb => ?_, h⟩
      rcases List.mem_cons.1 hb with rfl | hb
      · omega
      · have := hle b hb
        omega

/-! ### Texts -/

theorem orderMarks_cons_mark {c : Char} (hc : combiningClass c ≠ 0) (marks cs : List Char) :
    orderMarks marks (c :: cs) = orderMarks (insertMark c marks) cs := if_neg hc

theorem orderMarks_cons_starter {c : Char} (hc : combiningClass c = 0) (marks cs : List Char) :
    orderMarks marks (c :: cs) = marks ++ c :: orderMarks [] cs := if_pos hc

/-- A mark may be moved behind marks of other classes. -/
theorem orderMarks_cons_append {c : Char} (hc : combiningClass c ≠ 0) {held : List Char}
    (hheld : ∀ m ∈ held, combiningClass m ≠ 0 ∧ combiningClass m ≠ combiningClass c)
    (marks cs : List Char) :
    orderMarks marks (c :: (held ++ cs)) = orderMarks marks (held ++ c :: cs) := by
  induction held generalizing marks with
  | nil => rfl
  | cons m held ih =>
    obtain ⟨⟨hm, hne⟩, hheld⟩ := List.forall_mem_cons.1 hheld
    rw [List.cons_append, List.cons_append, orderMarks_cons_mark hc, orderMarks_cons_mark hm,
      insertMark_comm hne, ← orderMarks_cons_mark hc, ih hheld, orderMarks_cons_mark hm]

/-- A mark that follows marks in order may be put in its place among them beforehand. -/
theorem orderMarks_insertMark_append {c : Char} (hc : combiningClass c ≠ 0) {sorted : List Char}
    (h : InOrder sorted) (marks cs : List Char) :
    orderMarks marks (insertMark c sorted ++ cs) = orderMarks marks (sorted ++ c :: cs) := by
  induction sorted generalizing marks with
  | nil => rfl
  | cons m sorted ih =>
    obtain ⟨hm, hle, hsorted⟩ := inOrder_cons.1 h
    rw [insertMark_cons]
    split_ifs with hmc
    · rw [List.cons_append, List.cons_append, orderMarks_cons_mark hm, orderMarks_cons_mark hm,
        ih hsorted]
    · refine orderMarks_cons_append hc (fun b hb => ⟨h.ne_zero b hb, ?_⟩) marks cs
      rcases List.mem_cons.1 hb with rfl | hb
      · omega
      · have := hle b hb
        omega

theorem orderMarks_append_of_forall {xs ys : List Char}
    (h : ∀ marks, orderMarks marks xs = orderMarks marks ys) (ws marks : List Char) :
    orderMarks marks (ws ++ xs) = orderMarks marks (ws ++ ys) := by
  induction ws generalizing marks with
  | nil => exact h marks
  | cons w ws ih =>
    rw [List.cons_append, List.cons_append, orderMarks, orderMarks, ih, ih]

/-- A text may be put into canonical order beforehand. -/
theorem orderMarks_orderMarks {sorted : List Char} (h : InOrder sorted) (marks cs : List Char) :
    orderMarks marks (orderMarks sorted cs) = orderMarks marks (sorted ++ cs) := by
  induction cs generalizing sorted marks with
  | nil => rw [orderMarks, List.append_nil]
  | cons c cs ih =>
    by_cases hc : combiningClass c = 0
    · have hforall : ∀ marks, orderMarks marks (c :: orderMarks [] cs) =
          orderMarks marks (c :: cs) := by
        intro marks
        rw [orderMarks_cons_starter hc, orderMarks_cons_starter hc, ih inOrder_nil, List.nil_append]
      rw [orderMarks_cons_starter hc]
      exact orderMarks_append_of_forall hforall sorted marks
    · rw [orderMarks_cons_mark hc, ih (h.insertMark hc), orderMarks_insertMark_append hc h]

/-- A part of a text may be replaced by another one that has the same canonical order. -/
theorem orderMarks_append_congr {xs ys : List Char} (h : orderMarks [] xs = orderMarks [] ys)
    (ws marks : List Char) : orderMarks marks (ws ++ xs) = orderMarks marks (ws ++ ys) := by
  refine orderMarks_append_of_forall (fun marks => ?_) ws marks
  have hxs := orderMarks_orderMarks inOrder_nil marks xs
  have hys := orderMarks_orderMarks inOrder_nil marks ys
  rw [List.nil_append] at hxs hys
  rw [← hxs, h, hys]

/-- The second character may stand behind the first one: it is a starter, or its class is not below
that of the first one. -/
def CanFollow (a b : Char) : Prop := combiningClass b = 0 ∨ combiningClass a ≤ combiningClass b

theorem isChain_orderMarks {marks : List Char} (h : InOrder marks) (cs : List Char) :
    (orderMarks marks cs).IsChain CanFollow := by
  induction cs generalizing marks with
  | nil => exact (h.sorted.imp Or.inr).isChain
  | cons c cs ih =>
    by_cases hc : combiningClass c = 0
    · rw [orderMarks_cons_starter hc]
      refine List.isChain_append.2 ⟨(h.sorted.imp Or.inr).isChain, ?_, ?_⟩
      · refine List.isChain_cons.2 ⟨fun d _ => .inr ?_, ih inOrder_nil⟩
        rw [hc]
        exact Nat.zero_le _
      · intro m _ d hd
        rw [List.head?_cons, Option.mem_some_iff] at hd
        exact .inl (hd ▸ hc)
    · rw [orderMarks_cons_mark hc]
      exact ih (h.insertMark hc)

end GridAuthz.Text
