import Mathlib.Data.Int.ModEq
import Mathlib.FieldTheory.Finite.Basic
import Mathlib.Tactic.Ring
import GridAuthz.Crypto.Modular

/-!
# Powers and inverses with respect to a modulus

Repeated squaring computes the remainder of the power, and Euclid's algorithm an inverse. With
respect to a prime, an exponent that leaves the remainder one by the prime less one changes
nothing.
-/

namespace GridAuthz.Modular

/-! ### Powers -/

theorem powMod_eq (base exponent modulus : ℕ) :
    powMod base exponent modulus = base ^ exponent % modulus := by
  fun_induction powMod base exponent modulus with
  | case1 => rfl
  | case2 base exponent h half hodd ih =>
    have hsq : half % modulus = base ^ (2 * (exponent / 2)) % modulus := by
      show powMod _ _ _ % modulus = _
      rw [ih, Nat.mod_mod, ← Nat.pow_mod, pow_mul, pow_two]
    conv_rhs => rw [← Nat.div_add_mod exponent 2, hodd, pow_succ]
    rw [Nat.mul_mod, hsq, ← Nat.mul_mod, mul_comm]
  | case3 base exponent h half heven ih =>
    show powMod _ _ _ = _
    rw [ih, ← Nat.pow_mod, ← pow_two, ← pow_mul]
    congr 2
    omega

/-- Fermat's little theorem, for exponents that leave the remainder one. -/
theorem pow_modEq_self {p n : ℕ} (hp : p.Prime) (hn : n % (p - 1) = 1) (x : ℕ) :
    x ^ n ≡ x [MOD p] := by
  have : Fact p.Prime := ⟨hp⟩
  have hsplit : n = (p - 1) * (n / (p - 1)) + 1 := by
    conv_lhs => rw [← Nat.div_add_mod n (p - 1), hn]
  rw [← ZMod.natCast_eq_natCast_iff]
  push_cast
  by_cases hx : (x : ZMod p) = 0
  · rw [hx, zero_pow (by omega)]
  · rw [hsplit, pow_succ, pow_mul, ZMod.pow_card_sub_one_eq_one hx, one_pow, one_mul]

/-! ### Inverses -/

/-- Both remainders stay multiples of `a` by their cofactors. -/
theorem cofactor_mul_modEq {a m : ℤ} {r₀ r₁ : ℕ} {s₀ s₁ : ℤ} (h₀ : s₀ * a ≡ r₀ [ZMOD m])
    (h₁ : s₁ * a ≡ r₁ [ZMOD m]) : cofactor r₀ r₁ s₀ s₁ * a ≡ Nat.gcd r₀ r₁ [ZMOD m] := by
  fun_induction cofactor r₀ r₁ s₀ s₁ with
  | case1 r₀ s₀ s₁ => simpa using h₀
  | case2 r₀ r₁ s₀ s₁ h ih =>
    rw [Nat.gcd_comm, Nat.gcd_rec, Nat.gcd_comm]
    refine ih h₁ ?_
    have hmod : ((r₀ % r₁ : ℕ) : ℤ) = r₀ - (r₀ / r₁ : ℕ) * r₁ := by
      have := Nat.div_add_mod r₀ r₁
      push_cast
      rw [Int.emod_def]
      ring
    rw [hmod, sub_mul, mul_assoc]
    exact h₀.sub (h₁.mul_left _)

theorem inverse_mul_modEq {a m : ℕ} (hm : m ≠ 0) (h : Nat.Coprime a m) :
    inverse a m * a ≡ 1 [MOD m] := by
  have hcofactor : cofactor (a % m) m 1 0 * a ≡ Nat.gcd (a % m) m [ZMOD m] := by
    refine cofactor_mul_modEq ?_ ?_
    · rw [one_mul]
      exact (Int.mod_modEq a m).symm
    · simp [Int.ModEq]
  have hgcd : Nat.gcd (a % m) m = 1 := by
    rw [← Nat.gcd_rec, Nat.gcd_comm]
    exact h
  rw [← Int.natCast_modEq_iff, inverse]
  push_cast
  rw [Int.toNat_of_nonneg (Int.emod_nonneg _ (by exact_mod_cast hm))]
  rw [hgcd] at hcofactor
  exact ((Int.mod_modEq _ _).mul_right a).trans hcofactor

end GridAuthz.Modular
