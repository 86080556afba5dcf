import GridAuthz.Crypto.Prime
import GridAuthz.Crypto.Rsa.PrivateKey

/-!
# Making RSA keys

A key is made from a seed: the seed determines where the search for either prime starts.
-/

namespace GridAuthz.RsaPrivateKey

/-- The exponent of the public keys that are made. -/
def usualExponent : Nat := 65537

/-- A number of `width` bits, determined by a seed. -/
def spread (seed : Bytes) (width : Nat) : Nat :=
  Bytes.toNat ((List.range (width / 256 + 1)).flatMap fun i =>
    Sha2.sha256 (seed ++ Bytes.ofNatWidth 4 i)) % (1 <<< width)

/-- A prime of `width` bits, of which the first two are ones. The one before it has no common
factor with the public exponent. -/
def prime? (seed : Bytes) (width : Nat) : Option Nat :=
  let start := (3 <<< (width - 2)) + spread seed (width - 2)
  Prime.search? (fun p => (p - 1) % usualExponent ≠ 0) (64 * width) (start + (start + 1) % 2)

/-- The exponent that undoes the usual one, given the product of the primes less one each. -/
def undoing (totient : Nat) : Nat :=
  let count := usualExponent - Modular.inverse (totient % usualExponent) usualExponent
  (count * totient + 1) / usualExponent

/-- A key whose modulus has `width` bits. -/
def generate? (seed : Bytes) (width : Nat) : Option RsaPrivateKey := do
  let p ← prime? (seed ++ [1]) (width / 2)
  let q ← prime? (seed ++ [2]) (width - width / 2)
  ofNumbers? (p * q) usualExponent (undoing ((p - 1) * (q - 1))) p q

end GridAuthz.RsaPrivateKey
