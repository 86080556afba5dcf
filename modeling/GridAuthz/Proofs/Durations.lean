import Mathlib.Order.Defs.LinearOrder
import GridAuthz.Calendar.Duration

/-!
# The order of durations

Durations are ordered by their nanoseconds, so everything that is known of linear orders is known
of them.
-/

namespace GridAuthz.Duration

theorem le_iff {a b : Duration} : a ≤ b ↔ a.nanoseconds ≤ b.nanoseconds := Iff.rfl

theorem lt_iff {a b : Duration} : a < b ↔ a.nanoseconds < b.nanoseconds := Iff.rfl

theorem nanoseconds_injective {a b : Duration} (h : a.nanoseconds = b.nanoseconds) : a = b := by
  cases a
  cases b
  exact congrArg Duration.mk h

instance : LinearOrder Duration where
  toLE := inferInstance
  toLT := inferInstance
  toMin := inferInstance
  le_refl a := Nat.le_refl a.nanoseconds
  le_trans _ _ _ hab hbc := Nat.le_trans hab hbc
  lt_iff_le_not_ge _ _ := by
    simp only [le_iff, lt_iff]
    omega
  le_antisymm _ _ hab hba := nanoseconds_injective (Nat.le_antisymm hab hba)
  le_total a b := Nat.le_total a.nanoseconds b.nanoseconds
  toDecidableLE := inferInstance
  toDecidableLT := inferInstance
  toDecidableEq := inferInstance
  min_def _ _ := rfl

end GridAuthz.Duration
