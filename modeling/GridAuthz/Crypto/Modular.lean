/-!
# Modular arithmetic

Powers with respect to a modulus by repeated squaring, and inverses by Euclid's algorithm.
-/

namespace GridAuthz.Modular

/-- The remainder of a power by division with `modulus`. -/
def powMod (base exponent modulus : Nat) : Nat :=
  if exponent = 0 then 1 % modulus
  else
    let half := powMod (base * base % modulus) (exponent / 2) modulus
    if exponent % 2 = 1 then base * half % modulus else half
termination_by exponent

/-- Euclid's algorithm on two remainders `r₀` and `r₁`, which are the multiples of one number by
`s₀` and `s₁` up to multiples of the modulus. The result is the cofactor by which their greatest
common divisor is such a multiple. -/
def cofactor (r₀ r₁ : Nat) (s₀ s₁ : Int) : Int :=
  if r₁ = 0 then s₀ else cofactor r₁ (r₀ % r₁) s₁ (s₀ - (r₀ / r₁ : Nat) * s₁)
termination_by r₁
decreasing_by exact Nat.mod_lt _ (by omega)

/-- The inverse of a number that has no common factor with the modulus. -/
def inverse (a modulus : Nat) : Nat :=
  (cofactor (a % modulus) modulus 1 0 % modulus).toNat

end GridAuthz.Modular
