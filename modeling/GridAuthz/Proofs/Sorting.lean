import Mathlib.Data.List.Sort
import Mathlib.Data.String.Basic

/-!
# Lists in the order of their keys

A list whose elements have different keys is in strict order once it is sorted by them
(`pairwise_lt_mergeSort`), and a list in strict order is determined by which elements it has
(`eq_of_pairwise_lt`). Keys are texts, as in the listings of files.
-/

namespace GridAuthz

variable {α : Type} {key : α → String}

theorem pairwise_le_mergeSort (as : List α) :
    (as.mergeSort fun a b => decide (key a ≤ key b)).Pairwise fun a b => key a ≤ key b := by
  have hsorted : (as.mergeSort fun a b => decide (key a ≤ key b)).Pairwise
      fun a b => decide (key a ≤ key b) = true := by
    refine List.pairwise_mergeSort (fun a b c hab hbc => ?_) (fun a b => ?_) as
    · simp only [decide_eq_true_eq] at hab hbc ⊢
      exact hab.trans hbc
    · simpa using le_total (key a) (key b)
  exact hsorted.imp fun hle => by simpa using hle

theorem pairwise_lt_mergeSort {as : List α} (h : as.Pairwise fun a b => key a ≠ key b) :
    (as.mergeSort fun a b => decide (key a ≤ key b)).Pairwise fun a b => key a < key b := by
  have hdistinct : (as.mergeSort fun a b => decide (key a ≤ key b)).Pairwise
      fun a b => key a ≠ key b := (List.mergeSort_perm as _).symm.pairwise h Ne.symm
  exact ((pairwise_le_mergeSort as).and hdistinct).imp fun hab => lt_of_le_of_ne hab.1 hab.2

/-- Elements in order are determined by which they are. -/
theorem eq_of_pairwise_lt {as bs : List α} (has : as.Pairwise fun a b => key a < key b)
    (hbs : bs.Pairwise fun a b => key a < key b) (hmem : ∀ a, a ∈ as ↔ a ∈ bs) : as = bs := by
  have hnodup : ∀ {cs : List α}, cs.Pairwise (fun a b => key a < key b) → cs.Nodup :=
    fun h => h.imp fun hab heq => (heq ▸ hab).ne rfl
  exact List.Perm.eq_of_pairwise (fun a b _ _ hab hba => absurd hba hab.asymm) has hbs
    ((List.perm_ext_iff_of_nodup (hnodup has) (hnodup hbs)).2 hmem)

/-- Of texts in order, each is kept once. -/
theorem pairwise_lt_eraseDups {texts : List String} (h : texts.Pairwise (· ≤ ·)) :
    texts.eraseDups.Pairwise (· < ·) := by
  match texts with
  | [] => exact .nil
  | a :: rest =>
    obtain ⟨hle, hrest⟩ := List.pairwise_cons.1 h
    have hlength : (rest.filter fun b => !b == a).length ≤ rest.length := List.length_filter_le ..
    rw [List.eraseDups_cons]
    refine .cons (fun b hb => ?_) (pairwise_lt_eraseDups (hrest.filter _))
    obtain ⟨hmem, hne⟩ := List.mem_filter.1 (List.mem_eraseDups.1 hb)
    have hne : b ≠ a := by simpa using hne
    exact lt_of_le_of_ne (hle b hmem) hne.symm
termination_by texts.length

end GridAuthz
