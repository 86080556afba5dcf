import Mathlib.Tactic.Ring
import GridAuthz.Bytes

/-!
# Numbers and texts as byte strings

A byte string of given length is determined by the number that it writes, and the shortest one
that writes a number has no zero in front. The bytes of a text read back as the text.
-/

namespace GridAuthz.Bytes

/-! ### Numbers -/

theorem foldl_digits (bs : Bytes) (n : Nat) :
    bs.foldl (fun n b => n * 256 + b.toNat) n = n * 256 ^ bs.length + toNat bs := by
  induction bs generalizing n with
  | nil => simp [toNat]
  | cons b bs ih =>
    rw [toNat, List.foldl_cons, List.foldl_cons, ih, ih, List.length_cons]
    ring

@[simp] theorem toNat_nil : toNat [] = 0 := rfl

theorem toNat_cons (b : UInt8) (bs : Bytes) :
    toNat (b :: bs) = b.toNat * 256 ^ bs.length + toNat bs := by
  rw [toNat, List.foldl_cons, foldl_digits]
  simp

theorem toNat_lt (bs : Bytes) : toNat bs < 256 ^ bs.length := by
  induction bs with
  | nil => simp
  | cons b bs ih =>
    have hb : b.toNat ≤ 255 := Nat.le_of_lt_succ b.toNat_lt
    have hmul := Nat.mul_le_mul_right (256 ^ bs.length) hb
    rw [toNat_cons, List.length_cons, Nat.pow_succ]
    omega

/-- Two byte strings of the same length that write the same number are the same. -/
theorem eq_of_toNat_eq {as bs : Bytes} (hlen : as.length = bs.length) (h : toNat as = toNat bs) :
    as = bs := by
  induction as generalizing bs with
  | nil => exact (List.length_eq_zero_iff.1 hlen.symm).symm
  | cons a as ih =>
    cases bs with
    | nil => simp at hlen
    | cons b bs =>
      have hlen' : as.length = bs.length := by simpa using hlen
      have ha := toNat_lt as
      have hb := toNat_lt bs
      rw [toNat_cons, toNat_cons, hlen'] at h
      rw [hlen'] at ha
      have hdiv : ∀ d n : Nat, n < 256 ^ bs.length →
          (d * 256 ^ bs.length + n) / 256 ^ bs.length = d := by
        intro d n hn
        rw [Nat.mul_comm, Nat.mul_add_div (Nat.pow_pos (by decide)), Nat.div_eq_of_lt hn,
          Nat.add_zero]
      have hhead : a.toNat = b.toNat := by rw [← hdiv a.toNat _ ha, h, hdiv _ _ hb]
      rw [UInt8.toNat_inj.1 hhead, ih hlen' (by rw [hhead] at h; omega)]

theorem toNat_ofNatWidth (width n : Nat) : toNat (ofNatWidth width n) = n % 256 ^ width := by
  induction width with
  | zero => simp [ofNatWidth, Nat.mod_one]
  | succ width ih =>
    rw [ofNatWidth, toNat_cons, ih, length_ofNatWidth, Nat.mod_pow_succ, UInt8.toNat_ofNat',
      Nat.shiftRight_eq_div_pow, Nat.pow_mul]
    ring

theorem ofNatWidth_toNat (bs : Bytes) : ofNatWidth bs.length (toNat bs) = bs :=
  eq_of_toNat_eq (by simp) (by rw [toNat_ofNatWidth, Nat.mod_eq_of_lt (toNat_lt bs)])

theorem lt_pow_digitCount (n : Nat) : n < 256 ^ digitCount n := by
  rw [digitCount]
  split
  case isTrue h => simp [h]
  case isFalse h =>
    calc n < 2 ^ (n.log2 + 1) := Nat.lt_log2_self
      _ ≤ 2 ^ (8 * (n.log2 / 8 + 1)) := Nat.pow_le_pow_right (by omega) (by omega)
      _ = 256 ^ (n.log2 / 8 + 1) := by rw [Nat.pow_mul]

theorem pow_le_of_digitCount {n : Nat} (h : n ≠ 0) : 256 ^ (digitCount n - 1) ≤ n := by
  rw [digitCount, if_neg h, Nat.add_sub_cancel]
  calc 256 ^ (n.log2 / 8) = 2 ^ (8 * (n.log2 / 8)) := by rw [Nat.pow_mul]
    _ ≤ 2 ^ n.log2 := Nat.pow_le_pow_right (by omega) (by omega)
    _ ≤ n := Nat.log2_self_le h

@[simp] theorem length_ofNat (n : Nat) : (ofNat n).length = digitCount n := by
  simp [ofNat]

@[simp] theorem toNat_ofNat (n : Nat) : toNat (ofNat n) = n := by
  rw [ofNat, toNat_ofNatWidth, Nat.mod_eq_of_lt (lt_pow_digitCount n)]

/-- The shortest byte string that writes a number does not start with zero. -/
theorem ne_zero_of_ofNat {n : Nat} {b : UInt8} {bs : Bytes} (h : ofNat n = b :: bs) : b ≠ 0 := by
  rintro rfl
  have hlen : digitCount n = bs.length + 1 := by rw [← length_ofNat, h, List.length_cons]
  have hn : n = toNat bs := by
    rw [← toNat_ofNat n, h, toNat_cons]
    simp
  have hne : n ≠ 0 := by
    rintro rfl
    simp [digitCount] at hlen
  have hle := pow_le_of_digitCount hne
  have hlt := toNat_lt bs
  rw [hlen, Nat.add_sub_cancel] at hle
  omega

/-! ### Texts -/

@[simp] theorem toText?_ofText (s : String) : toText? (ofText s) = some s := by
  have hbytes : (ofText s).toByteArray = s.toByteArray :=
    ByteArray.ext (Array.ext' List.toList_data_toByteArray)
  rw [toText?, hbytes, String.fromUTF8?, dif_pos s.isValidUTF8]
  rfl

end GridAuthz.Bytes
