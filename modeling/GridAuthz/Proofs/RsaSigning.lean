import Mathlib.Data.Nat.ModEq
import Mathlib.NumberTheory.LucasLehmer
import GridAuthz.Crypto.Rsa.PrivateKey
import GridAuthz.Proofs.Der.Primitives
import GridAuthz.Proofs.ModularArithmetic

/-!
# Signing and verifying

A signature that a private key gives verifies under its public key (`verifies_of_sign?`). A key
made of two primes signs every message that its modulus has room for (`exists_sign?`).
-/

namespace GridAuthz

theorem RsaDigest.length_padded? {d : RsaDigest} {size : Nat} {message padded : Bytes}
    (h : d.padded? size message = some padded) : padded.length = size := by
  simp only [RsaDigest.padded?, Option.ite_none_right_eq_some, Option.some.injEq] at h
  obtain ⟨hroom, rfl⟩ := h
  simp
  omega

/-- A padded digest starts with zero, so it is a number of one byte less. -/
theorem RsaDigest.toNat_padded?_lt {d : RsaDigest} {size : Nat} {message padded : Bytes}
    (h : d.padded? size message = some padded) : Bytes.toNat padded < 256 ^ (size - 1) := by
  have hlength := length_padded? h
  simp only [padded?, Option.ite_none_right_eq_some, Option.some.injEq] at h
  obtain ⟨-, hpadded⟩ := h
  have hzero : ∀ bs : Bytes, Bytes.toNat (0 :: bs) < 256 ^ ((0 :: bs).length - 1) := by
    intro bs
    simpa [Bytes.toNat_cons] using Bytes.toNat_lt bs
  rw [← hlength, ← hpadded]
  exact hzero _

namespace RsaPrivateKey

variable {k : RsaPrivateKey} {pk : RsaPublicKey}

theorem modulus_eq (k : RsaPrivateKey) : k.firstPrime * k.secondPrime = k.modulus := by
  have h := k.isPair
  simp only [isRsaPair, Bool.and_eq_true, decide_eq_true_eq] at h
  exact h.1.1

/-- A power is a remainder by division with the modulus. -/
theorem power_lt (hk : k.modulus ≠ 0) (base : Nat) : k.power base < k.modulus := by
  have hmodulus := k.modulus_eq
  have hfirst : 0 < k.firstPrime := Nat.pos_of_ne_zero fun h => hk (by simp [← hmodulus, h])
  have hsecond : 0 < k.secondPrime := Nat.pos_of_ne_zero fun h => hk (by simp [← hmodulus, h])
  rw [power]
  split_ifs with hgcd
  · simp only [Modular.powMod_eq]
    set difference := base ^ (k.privateExponent % (k.firstPrime - 1)) % k.firstPrime +
      k.firstPrime - base ^ (k.privateExponent % (k.secondPrime - 1)) % k.secondPrime %
        k.firstPrime
    have hquotient : difference * Modular.inverse k.secondPrime k.firstPrime % k.firstPrime + 1 ≤
        k.firstPrime := Nat.mod_lt _ hfirst
    have hremainder : base ^ (k.privateExponent % (k.secondPrime - 1)) % k.secondPrime <
        k.secondPrime := Nat.mod_lt _ hsecond
    calc _ < difference * Modular.inverse k.secondPrime k.firstPrime % k.firstPrime *
          k.secondPrime + k.secondPrime := Nat.add_lt_add_left hremainder _
      _ = (difference * Modular.inverse k.secondPrime k.firstPrime % k.firstPrime + 1) *
          k.secondPrime := by ring
      _ ≤ k.firstPrime * k.secondPrime := Nat.mul_le_mul_right _ hquotient
      _ = k.modulus := hmodulus
  · rw [Modular.powMod_eq]
    exact Nat.mod_lt _ (Nat.pos_of_ne_zero hk)

/-- A signature has as many bytes as the modulus. -/
theorem length_of_sign? {d : RsaDigest} {message signature : Bytes}
    (h : k.sign? d message = some signature) : signature.length = k.size := by
  simp only [sign?, Option.bind_eq_bind, Option.bind_eq_some_iff, Option.ite_none_right_eq_some,
    Option.some.injEq] at h
  obtain ⟨padded, -, -, rfl⟩ := h
  exact Bytes.length_ofNatWidth _ _

/-- A signature that a private key gives verifies under its public key. -/
theorem verifies_of_sign? (hpk : k.publicKey? = some pk) {d : RsaDigest}
    {message signature : Bytes} (h : k.sign? d message = some signature) :
    pk.verifies d message signature = true := by
  simp only [publicKey?, RsaPublicKey.ofNumbers?, Option.dite_none_right_eq_some,
    Option.some.injEq] at hpk
  obtain ⟨hkey, rfl⟩ := hpk
  have hne : k.modulus ≠ 0 := by
    intro hzero
    simp [isRsaPublicKey, isRsaKey, hzero] at hkey
  simp only [sign?, Option.bind_eq_bind, Option.bind_eq_some_iff, Option.ite_none_right_eq_some,
    Option.some.injEq] at h
  obtain ⟨padded, hpadded, hpower, rfl⟩ := h
  have hlt := power_lt hne (Bytes.toNat padded)
  have hvalue : Bytes.toNat (Bytes.ofNatWidth k.size (k.power (Bytes.toNat padded))) =
      k.power (Bytes.toNat padded) := by
    rw [Bytes.toNat_ofNatWidth, Nat.mod_eq_of_lt]
    exact hlt.trans (Bytes.lt_pow_digitCount k.modulus)
  have hsize : k.size = padded.length := (RsaDigest.length_padded? hpadded).symm
  have hback : Bytes.ofNatWidth k.size (Bytes.toNat padded) = padded := by
    rw [hsize, Bytes.ofNatWidth_toNat]
  change d.padded? (Bytes.digitCount k.modulus) message = some padded at hpadded
  simp only [RsaPublicKey.verifies, RsaPublicKey.size, hvalue, hpower, hpadded]
  simp only [size] at hback
  simp [hback, hlt, size]

/-! ### Keys made of two primes -/

theorem exponents_mod (k : RsaPrivateKey) :
    k.exponent * k.privateExponent % (k.firstPrime - 1) = 1 ∧
      k.exponent * k.privateExponent % (k.secondPrime - 1) = 1 := by
  have h := k.isPair
  simp only [isRsaPair, Bool.and_eq_true, decide_eq_true_eq] at h
  exact ⟨h.1.2, h.2⟩

/-- The power has the remainders by the two primes that it is put together from. -/
theorem power_modEq (hp : k.firstPrime.Prime) (hq : k.secondPrime.Prime)
    (hne : k.firstPrime ≠ k.secondPrime) (base : ℕ) :
    k.power base ≡ base ^ (k.privateExponent % (k.firstPrime - 1)) [MOD k.firstPrime] ∧
      k.power base ≡ base ^ (k.privateExponent % (k.secondPrime - 1)) [MOD k.secondPrime] := by
  have hcoprime : Nat.Coprime k.firstPrime k.secondPrime := (Nat.coprime_primes hp hq).2 hne
  rw [power, if_pos hcoprime]
  simp only [Modular.powMod_eq]
  set first := base ^ (k.privateExponent % (k.firstPrime - 1)) % k.firstPrime with hfirst
  set second := base ^ (k.privateExponent % (k.secondPrime - 1)) % k.secondPrime with hsecond
  have hdifference : first + k.firstPrime - second % k.firstPrime + second ≡
      first [MOD k.firstPrime] := by
    have hle : second % k.firstPrime ≤ first + k.firstPrime :=
      (Nat.mod_lt _ hp.pos).le.trans (Nat.le_add_left _ _)
    calc first + k.firstPrime - second % k.firstPrime + second
        ≡ first + k.firstPrime - second % k.firstPrime + second % k.firstPrime
          [MOD k.firstPrime] := (Nat.mod_modEq _ _).symm.add_left _
      _ = first + k.firstPrime := Nat.sub_add_cancel hle
      _ ≡ first [MOD k.firstPrime] := Nat.add_modEq_right
  constructor
  · have hquotient : (first + k.firstPrime - second % k.firstPrime) *
        Modular.inverse k.secondPrime k.firstPrime % k.firstPrime * k.secondPrime ≡
        first + k.firstPrime - second % k.firstPrime [MOD k.firstPrime] := by
      refine ((Nat.mod_modEq _ _).mul_right _).trans ?_
      rw [mul_assoc]
      simpa using (Modular.inverse_mul_modEq hp.ne_zero hcoprime.symm).mul_left _
    exact ((hquotient.add_right _).trans hdifference).trans (Nat.mod_modEq _ _)
  · refine Nat.ModEq.trans ?_ (Nat.mod_modEq _ _)
    simp [Nat.ModEq, ← hsecond]

/-- The public exponent takes the power back. -/
theorem powMod_power (hp : k.firstPrime.Prime) (hq : k.secondPrime.Prime)
    (hne : k.firstPrime ≠ k.secondPrime) {base : ℕ} (hbase : base < k.modulus) :
    Modular.powMod (k.power base) k.exponent k.modulus = base := by
  obtain ⟨hfirst, hsecond⟩ := k.power_modEq hp hq hne base
  obtain ⟨hexponent, hexponent'⟩ := k.exponents_mod
  have hback : ∀ {p : ℕ}, p.Prime → k.exponent * k.privateExponent % (p - 1) = 1 →
      k.power base ≡ base ^ (k.privateExponent % (p - 1)) [MOD p] →
      k.power base ^ k.exponent ≡ base [MOD p] := by
    intro p hp hexponent hpower
    refine (hpower.pow k.exponent).trans ?_
    rw [← pow_mul]
    refine Modular.pow_modEq_self hp ?_ base
    rw [Nat.mod_mul_mod, mul_comm, hexponent]
  have hmodulus : k.power base ^ k.exponent ≡ base [MOD k.modulus] := by
    rw [← k.modulus_eq]
    exact (Nat.modEq_and_modEq_iff_modEq_mul ((Nat.coprime_primes hp hq).2 hne)).1
      ⟨hback hp hexponent hfirst, hback hq hexponent' hsecond⟩
  rw [Modular.powMod_eq]
  exact Nat.mod_eq_of_modEq hmodulus hbase

/-- A key made of two primes signs every message that its modulus has room for. -/
theorem exists_sign? (hp : k.firstPrime.Prime) (hq : k.secondPrime.Prime)
    (hne : k.firstPrime ≠ k.secondPrime) {d : RsaDigest} {message : Bytes}
    (hroom : (d.named message).length + 11 ≤ k.size) :
    ∃ signature, k.sign? d message = some signature := by
  obtain ⟨padded, hpadded⟩ : ∃ padded, d.padded? k.size message = some padded := by
    simp [RsaDigest.padded?, hroom]
  have hmodulus : k.modulus ≠ 0 := by
    rw [← k.modulus_eq]
    exact Nat.mul_ne_zero hp.ne_zero hq.ne_zero
  have hlt : Bytes.toNat padded < k.modulus := by
    refine (RsaDigest.toNat_padded?_lt hpadded).trans_le ?_
    exact Bytes.pow_le_of_digitCount hmodulus
  refine ⟨Bytes.ofNatWidth k.size (k.power (Bytes.toNat padded)), ?_⟩
  simp [sign?, hpadded, k.powMod_power hp hq hne hlt]

/-- A key made of two Mersenne primes. -/
def mersenne : RsaPrivateKey where
  modulus := (2 ^ 521 - 1) * 3
  exponent := 7
  privateExponent := (3 * 2 ^ 521 - 5) / 7
  firstPrime := 2 ^ 521 - 1
  secondPrime := 3
  isPair := by decide +kernel

theorem exists_sign?_mersenne (message : Bytes) :
    ∃ signature, mersenne.sign? .sha256 message = some signature := by
  have hfirst : mersenne.firstPrime.Prime := lucas_lehmer_sufficiency 521 (by simp) (by norm_num)
  refine exists_sign? hfirst Nat.prime_three (by decide +kernel) ?_
  have hroom : 62 ≤ mersenne.size := by decide +kernel
  simpa [RsaDigest.named, RsaDigest.header, RsaDigest.digest, Sha2.length_sha256] using hroom

end RsaPrivateKey

end GridAuthz
