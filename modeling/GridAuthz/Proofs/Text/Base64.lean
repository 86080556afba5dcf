import GridAuthz.Text.Base64
import GridAuthz.Text.Whitespace

/-!
# Base64 read back

What is written in base64 is read back (`Base64.decode?_encode`). Each character that is written
stands for six bits or is an equals sign, so none of them is a dash, ends a line or is left out as
white space.
-/

namespace GridAuthz.Base64

/-! ### Characters -/

theorem value?_character {n : Nat} (h : n < 64) : value? (character n) = some n := by
  have small : ∀ k : Fin 64, value? (character k) = some k.val := by decide
  exact small ⟨n, h⟩

theorem character_ne_equals {n : Nat} (h : n < 64) : character n ≠ '=' := by
  have small : ∀ k : Fin 64, character k ≠ '=' := by decide
  exact small ⟨n, h⟩

/-- A character that base64 is written with. -/
def IsDigit (c : Char) : Prop := c = '=' ∨ ∃ n < 64, c = character n

theorem isDigit_character {n : Nat} (h : n < 64) : IsDigit (character n) := .inr ⟨n, h, rfl⟩

theorem isDigit_equals : IsDigit '=' := .inl rfl

theorem IsDigit.isWhitespace {c : Char} (h : IsDigit c) : Text.isWhitespace c = false := by
  have small : ∀ k : Fin 64, Text.isWhitespace (character k) = false := by decide
  rcases h with rfl | ⟨n, hn, rfl⟩
  · rfl
  · exact small ⟨n, hn⟩

theorem IsDigit.ne_dash {c : Char} (h : IsDigit c) : c ≠ '-' := by
  have small : ∀ k : Fin 64, character k ≠ '-' := by decide
  rcases h with rfl | ⟨n, hn, rfl⟩
  · decide
  · exact small ⟨n, hn⟩

/-! ### Groups -/

theorem isDigit_of_mem_encode (bs : Bytes) : ∀ c ∈ encode bs, IsDigit c := by
  have hbyte : ∀ b : UInt8, b.toNat < 256 := UInt8.toNat_lt
  fun_induction encode bs with
  | case1 => simp
  | case2 a =>
    have := hbyte a
    simp only [List.forall_mem_cons]
    refine ⟨isDigit_character ?_, isDigit_character ?_, isDigit_equals, isDigit_equals, by simp⟩ <;>
      omega
  | case3 a b =>
    have := hbyte a
    have := hbyte b
    simp only [List.forall_mem_cons]
    refine ⟨isDigit_character ?_, isDigit_character ?_, isDigit_character ?_, isDigit_equals,
      by simp⟩ <;> omega
  | case4 a b c rest ih =>
    have := hbyte a
    have := hbyte b
    have := hbyte c
    simp only [List.forall_mem_cons]
    refine ⟨isDigit_character ?_, isDigit_character ?_, isDigit_character ?_, isDigit_character ?_,
      ih⟩ <;> omega

/-- Three bytes are written as four characters, the last ones too. -/
theorem length_encode (bs : Bytes) : (encode bs).length = 4 * ((bs.length + 2) / 3) := by
  fun_induction encode bs with
  | case1 => rfl
  | case2 => simp
  | case3 => simp
  | case4 a b c rest ih =>
    simp only [List.length_cons, ih]
    omega

/-- A group of four characters in front is read by itself. -/
theorem decode?_cons {p q r s : Char} {w x y z : Nat} (hp : value? p = some w)
    (hq : value? q = some x) (hr : value? r = some y) (hs : value? s = some z)
    (hr' : r ≠ '=') (hs' : s ≠ '=') (cs : List Char) :
    decode? (p :: q :: r :: s :: cs) = (decode? cs).map fun bs =>
      UInt8.ofNat (w * 4 + x / 16) :: UInt8.ofNat (x % 16 * 16 + y / 4) ::
        UInt8.ofNat (y % 4 * 64 + z) :: bs := by
  cases cs with
  | nil => simp [decode?, decodeLast?, hp, hq, hr, hs, hr', hs']
  | cons c cs =>
    rw [decode?.eq_3 _ _ _ _ _ (by simp)]
    simp only [hp, hq, hr, hs, Option.bind_eq_bind, Option.bind_some, Option.pure_def,
      Option.map_eq_bind, Function.comp_def]

/-- What is written is read back. -/
theorem decode?_encode (bs : Bytes) : decode? (encode bs) = some bs := by
  have hbyte : ∀ b : UInt8, b.toNat < 256 := UInt8.toNat_lt
  have heq : ∀ {n : Nat} {b : UInt8}, n = b.toNat → UInt8.ofNat n = b := by
    rintro n b rfl
    exact UInt8.ofNat_toNat
  fun_induction encode bs with
  | case1 => rfl
  | case2 a =>
    have ha := hbyte a
    have hfirst := value?_character (n := a.toNat / 4) (by omega)
    have hsecond := value?_character (n := a.toNat % 4 * 16) (by omega)
    have hzero : a.toNat % 4 * 16 % 16 = 0 := by omega
    have hbits : UInt8.ofNat (a.toNat / 4 * 4 + a.toNat % 4 * 16 / 16) = a := heq (by omega)
    simp only [decode?, decodeLast?, hfirst, hsecond, hzero, hbits, Option.bind_eq_bind,
      Option.bind_some, and_self, if_true]
  | case3 a b =>
    have ha := hbyte a
    have hb := hbyte b
    have hfirst := value?_character (n := a.toNat / 4) (by omega)
    have hsecond := value?_character (n := a.toNat % 4 * 16 + b.toNat / 16) (by omega)
    have hthird := value?_character (n := b.toNat % 16 * 4) (by omega)
    have hne := character_ne_equals (n := b.toNat % 16 * 4) (by omega)
    have hzero : b.toNat % 16 * 4 % 4 = 0 := by omega
    have hbits : UInt8.ofNat (a.toNat / 4 * 4 + (a.toNat % 4 * 16 + b.toNat / 16) / 16) = a :=
      heq (by omega)
    have hbits' : UInt8.ofNat
        ((a.toNat % 4 * 16 + b.toNat / 16) % 16 * 16 + b.toNat % 16 * 4 / 4) = b := heq (by omega)
    simp only [decode?, decodeLast?, hfirst, hsecond, hthird, hne, hzero, hbits, hbits',
      Option.bind_eq_bind, Option.bind_some, false_and, if_false, if_true]
  | case4 a b c rest ih =>
    have ha := hbyte a
    have hb := hbyte b
    have hc := hbyte c
    have hbits : UInt8.ofNat (a.toNat / 4 * 4 + (a.toNat % 4 * 16 + b.toNat / 16) / 16) = a :=
      heq (by omega)
    have hbits' : UInt8.ofNat ((a.toNat % 4 * 16 + b.toNat / 16) % 16 * 16 +
        (b.toNat % 16 * 4 + c.toNat / 64) / 4) = b := heq (by omega)
    have hbits'' : UInt8.ofNat ((b.toNat % 16 * 4 + c.toNat / 64) % 4 * 64 + c.toNat % 64) = c :=
      heq (by omega)
    rw [decode?_cons (value?_character (by omega)) (value?_character (by omega))
      (value?_character (by omega)) (value?_character (by omega))
      (character_ne_equals (by omega)) (character_ne_equals (by omega)), ih, Option.map_some,
      hbits, hbits', hbits'']

end GridAuthz.Base64
