import Mathlib.Data.List.TakeDrop
import GridAuthz.Proofs.Text.CodePoints

/-!
# Where the characters of a normalized text come from

Canonical order only moves characters (`orderMarks_perm`), and composition only replaces pairs by
their composites. So a property that decomposition brings about, and that a composite has from the
two characters it is made of, is one of all characters of a normalized text (`forall_mem_nfkc`).
-/

namespace GridAuthz.Text

theorem insertMark_perm (c : Char) (marks : List Char) : (insertMark c marks).Perm (c :: marks) := by
  rw [insertMark, List.span_eq_takeWhile_dropWhile]
  have hperm := @List.perm_middle _ c
    (marks.takeWhile fun m => decide (combiningClass m ≤ combiningClass c))
    (marks.dropWhile fun m => decide (combiningClass m ≤ combiningClass c))
  rwa [List.takeWhile_append_dropWhile] at hperm

theorem orderMarks_perm (marks cs : List Char) : (orderMarks marks cs).Perm (marks ++ cs) := by
  induction cs generalizing marks with
  | nil => rw [orderMarks, List.append_nil]
  | cons c cs ih =>
    rw [orderMarks]
    split_ifs
    · exact ((ih []).cons c).append_left marks
    · have hinsert := (insertMark_perm c marks).append_right cs
      exact (ih _).trans (hinsert.trans List.perm_middle.symm)

variable {p : Char → Prop}

theorem forall_mem_composeAfter (hpair : ∀ a b c, composePair? a b = some c → p a → p b → p c)
    {starter : Char} {held : List Char} {lastClass : Option Nat} {cs : List Char}
    (hstarter : p starter) (hheld : ∀ c ∈ held, p c) (hcs : ∀ c ∈ cs, p c) :
    ∀ c ∈ composeAfter starter held lastClass cs, p c := by
  induction cs generalizing starter held lastClass with
  | nil => exact List.forall_mem_cons.2 ⟨hstarter, hheld⟩
  | cons c cs ih =>
    obtain ⟨hc, hcs⟩ := List.forall_mem_cons.1 hcs
    rw [composeAfter]
    split
    · rename_i composite hjoined
      refine ih (hpair starter c composite ?_ hstarter hc) hheld hcs
      split_ifs at hjoined
      exact hjoined
    · split_ifs
      · refine List.forall_mem_cons.2 ⟨hstarter, List.forall_mem_append.2 ⟨hheld, ?_⟩⟩
        exact ih hc (List.forall_mem_nil _) hcs
      · exact ih hstarter (List.forall_mem_append.2 ⟨hheld, by simpa using hc⟩) hcs

theorem forall_mem_compose (hpair : ∀ a b c, composePair? a b = some c → p a → p b → p c)
    {cs : List Char} (hcs : ∀ c ∈ cs, p c) : ∀ c ∈ compose cs, p c := by
  induction cs with
  | nil => exact List.forall_mem_nil _
  | cons c cs ih =>
    obtain ⟨hc, hcs⟩ := List.forall_mem_cons.1 hcs
    rw [compose]
    split_ifs
    · exact forall_mem_composeAfter hpair hc (List.forall_mem_nil _) hcs
    · exact List.forall_mem_cons.2 ⟨hc, ih hcs⟩

theorem forall_mem_nfkc (hpair : ∀ a b c, composePair? a b = some c → p a → p b → p c)
    {cs : List Char} (hcs : ∀ c ∈ cs, ∀ d ∈ decompose c, p d) : ∀ c ∈ nfkc cs, p c := by
  refine forall_mem_compose hpair fun d hd => ?_
  rw [(orderMarks_perm [] _).mem_iff, List.nil_append] at hd
  obtain ⟨c, hc, hd⟩ := List.mem_flatMap.1 hd
  exact hcs c hc d hd

end GridAuthz.Text
