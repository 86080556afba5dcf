import GridAuthz.Certificate.Algorithm
import GridAuthz.Certificate.SerialNumber
import GridAuthz.Der.Time
import GridAuthz.Proofs.Der.Primitives

/-!
# Values with one form

Numbers, truth values, strings, times and identifiers are only read in the form in which they are
written.
-/

namespace GridAuthz

/-! ### Numbers -/

/-- Without a zero in front, a byte string is the shortest one that writes its number. -/
theorem Bytes.ofNat_toNat {b : UInt8} {bs : Bytes} (hb : b ≠ 0) :
    ofNat (toNat (b :: bs)) = b :: bs := by
  refine eq_of_toNat_eq ?_ (toNat_ofNat _)
  have hpos : 0 < b.toNat := Nat.pos_of_ne_zero fun h => hb (UInt8.toNat_inj.1 h)
  have hge : 256 ^ bs.length ≤ toNat (b :: bs) := by
    rw [toNat_cons]
    exact (Nat.le_mul_of_pos_left _ hpos).trans (Nat.le_add_right _ _)
  have hlt := toNat_lt (b :: bs)
  have hne : toNat (b :: bs) ≠ 0 := by
    have := Nat.pow_pos (n := bs.length) (show 0 < 256 by decide)
    omega
  have hupper : bs.length < digitCount (toNat (b :: bs)) :=
    (Nat.pow_lt_pow_iff_right (by decide)).1 (hge.trans_lt (lt_pow_digitCount _))
  have hlower : digitCount (toNat (b :: bs)) - 1 < (b :: bs).length :=
    (Nat.pow_lt_pow_iff_right (by decide)).1 ((pow_le_of_digitCount hne).trans_lt hlt)
  rw [length_ofNat]
  rw [List.length_cons] at hlower ⊢
  omega

namespace Der

theorem contentOf?_eq_some_iff {tag : Tag} {e : Element} {content : Bytes} :
    e.contentOf? tag = some content ↔ e = ⟨tag, content⟩ := by
  cases e
  simp [Element.contentOf?]

theorem unsignedContent_toNat {b : UInt8} {bs : Bytes} (h : isIntegerContent (b :: bs) = true)
    (hb : b < 0x80) : unsignedContent (Bytes.toNat (b :: bs)) = b :: bs := by
  rw [unsignedContent]
  by_cases hzero : b = 0
  · subst hzero
    cases bs with
    | nil => rfl
    | cons c bs =>
      have hc : ¬c < 0x80 := by simpa [isIntegerContent] using h
      have hne : c ≠ 0 := by
        rintro rfl
        exact hc (by decide)
      have hvalue : Bytes.toNat (0 :: c :: bs) = Bytes.toNat (c :: bs) := by
        rw [Bytes.toNat_cons 0]
        simp
      rw [hvalue, Bytes.ofNat_toNat hne]
      simp [hc]
  · rw [Bytes.ofNat_toNat hzero]
    simp [hb]

theorem Element.ofNat_of_natBelow? {e : Element} {bound n : Nat}
    (h : e.natBelow? bound = some n) : n < bound ∧ Element.ofNat n = e := by
  simp only [natBelow?, nat?, Option.bind_eq_some_iff, Option.ite_none_right_eq_some,
    Option.some.injEq] at h
  obtain ⟨m, hm, hlt, rfl⟩ := h
  refine ⟨hlt, ?_⟩
  split at hm
  case h_1 b bs hcontent =>
    simp only [Option.ite_none_right_eq_some, Option.some.injEq] at hm
    obtain ⟨⟨hinteger, hb⟩, rfl⟩ := hm
    rw [ofNat, unsignedContent_toNat hinteger hb, contentOf?_eq_some_iff.1 hcontent]
  case h_2 => simp at hm

/-! ### Truth values and strings -/

theorem Element.ofBool_of_bool? {e : Element} {b : Bool} (h : e.bool? = some b) :
    Element.ofBool b = e := by
  rw [bool?] at h
  split at h
  case h_1 hcontent =>
    cases h
    exact (contentOf?_eq_some_iff.1 hcontent).symm
  case h_2 hcontent =>
    cases h
    exact (contentOf?_eq_some_iff.1 hcontent).symm
  case h_3 => simp at h

theorem Element.ofOctets_of_octets? {e : Element} {bytes : Bytes} (h : e.octets? = some bytes) :
    Element.ofOctets bytes = e := (contentOf?_eq_some_iff.1 h).symm

theorem BitString.toElement_of_ofElement? {e : Element} {s : BitString}
    (h : ofElement? e = some s) : s.toElement = e := by
  simp only [ofElement?, Option.bind_eq_some_iff, contentOf?_eq_some_iff] at h
  obtain ⟨content, rfl, h⟩ := h
  cases content with
  | nil => simp [ofContent?] at h
  | cons unused bytes =>
    simp only [ofContent?, Option.dite_none_right_eq_some, Option.some.injEq] at h
    obtain ⟨_, rfl⟩ := h
    simp [toElement, BitString.content]

theorem AsciiText.toBytes_of_ofBytes? {bytes : Bytes} {s : AsciiText}
    (h : ofBytes? bytes = some s) : s.toBytes = bytes := by
  simp only [ofBytes?, ofString?, Option.dite_none_right_eq_some, Option.some.injEq] at h
  obtain ⟨_, rfl⟩ := h
  have hbyte : ∀ b : UInt8, UInt8.ofNat (Char.ofNat b.toNat).toNat = b := by
    intro b
    have hvalid : b.toNat.isValidChar := .inl (by have := b.toNat_lt; omega)
    rw [Char.ofNat, dif_pos hvalid]
    change UInt8.ofNat b.toNat = b
    simp
  simp [toBytes, Function.comp_def, hbyte]

theorem AsciiText.toElement_of_ofElement? {e : Element} {s : AsciiText}
    (h : ofElement? e = some s) : s.toElement = e := by
  simp only [ofElement?, Option.bind_eq_some_iff, contentOf?_eq_some_iff] at h
  obtain ⟨content, rfl, h⟩ := h
  rw [toElement, toBytes_of_ofBytes? h]

/-! ### Times -/

theorem toNat_of_isDigit {b : UInt8} (h : (48 ≤ b && b ≤ 57) = true) :
    48 ≤ b.toNat ∧ b.toNat ≤ 57 := by
  simpa [UInt8.le_iff_toNat_le] using h

theorem twoDigits_of_digits? {a b : UInt8} {n : Nat} (h : digits? [a, b] = some n) :
    twoDigits n = [a, b] := by
  simp only [digits?, List.all_cons, List.all_nil, Bool.and_true, Bool.and_eq_true,
    Option.ite_none_right_eq_some, Option.some.injEq, List.foldl_cons, List.foldl_nil] at h
  obtain ⟨⟨ha, hb⟩, rfl⟩ := h
  have ha' := toNat_of_isDigit (by simpa using ha)
  have hb' := toNat_of_isDigit (by simpa using hb)
  have hfirst : 48 + ((0 * 10 + (a.toNat - 48)) * 10 + (b.toNat - 48)) / 10 = a.toNat := by omega
  have hsecond : 48 + ((0 * 10 + (a.toNat - 48)) * 10 + (b.toNat - 48)) % 10 = b.toNat := by omega
  rw [twoDigits, hfirst, hsecond, UInt8.ofNat_toNat, UInt8.ofNat_toNat]

/-- Four digits are two pairs of digits. -/
theorem twoDigits_append_of_digits? {a b c d : UInt8} {n : Nat}
    (h : digits? [a, b, c, d] = some n) :
    twoDigits (n / 100) ++ twoDigits (n % 100) = [a, b, c, d] := by
  obtain ⟨m, k, hm, hk, hlt, rfl⟩ : ∃ m k, digits? [a, b] = some m ∧ digits? [c, d] = some k ∧
      k < 100 ∧ n = m * 100 + k := by
    simp only [digits?, List.all_cons, List.all_nil, Bool.and_true, Bool.and_eq_true,
      Option.ite_none_right_eq_some, Option.some.injEq, List.foldl_cons, List.foldl_nil] at h ⊢
    obtain ⟨⟨ha, hb, hc, hd⟩, rfl⟩ := h
    have hc' := toNat_of_isDigit (by simpa using hc)
    have hd' := toNat_of_isDigit (by simpa using hd)
    exact ⟨_, _, ⟨⟨ha, hb⟩, rfl⟩, ⟨⟨hc, hd⟩, rfl⟩, by omega, by omega⟩
  have hdiv : (m * 100 + k) / 100 = m := by omega
  have hmod : (m * 100 + k) % 100 = k := by omega
  rw [hdiv, hmod, twoDigits_of_digits? hm, twoDigits_of_digits? hk]
  rfl

theorem ofParts?_eq_some {year month day hour minute second : Nat} {t : DateTime}
    (h : DateTime.ofParts? year month day hour minute second = some t) :
    t.year = year ∧ t.month = month ∧ t.day = day ∧ t.hour = hour ∧ t.minute = minute ∧
      t.second = second := by
  simp only [DateTime.ofParts?, Option.dite_none_right_eq_some, Option.some.injEq] at h
  obtain ⟨_, rfl⟩ := h
  simp

theorem monthToSecond_of_ofMonthToSecond? {year : Nat} {bytes : Bytes} {t : DateTime}
    (h : ofMonthToSecond? year bytes = some t) : t.year = year ∧ monthToSecond t = bytes := by
  unfold ofMonthToSecond? at h
  split at h
  case h_1 =>
    simp only [Option.bind_eq_bind, Option.bind_eq_some_iff] at h
    obtain ⟨month, hmonth, day, hday, hour, hhour, minute, hminute, second, hsecond, h⟩ := h
    obtain ⟨rfl, rfl, rfl, rfl, rfl, rfl⟩ := ofParts?_eq_some h
    refine ⟨rfl, ?_⟩
    rw [monthToSecond, twoDigits_of_digits? hmonth, twoDigits_of_digits? hday,
      twoDigits_of_digits? hhour, twoDigits_of_digits? hminute, twoDigits_of_digits? hsecond]
    rfl
  case h_2 => simp at h

theorem generalizedTime_of_generalizedTime? {e : Element} {t : DateTime}
    (h : generalizedTime? e = some t) : generalizedTime t = e := by
  simp only [generalizedTime?, Option.bind_eq_bind, Option.bind_eq_some_iff,
    contentOf?_eq_some_iff] at h
  obtain ⟨content, rfl, h⟩ := h
  split at h
  case h_1 =>
    simp only [Option.bind_eq_some_iff] at h
    obtain ⟨year, hyear, h⟩ := h
    obtain ⟨rfl, hrest⟩ := monthToSecond_of_ofMonthToSecond? h
    rw [generalizedTime, twoDigits_append_of_digits? hyear, hrest]
    rfl
  case h_2 => simp at h

end Der

/-! ### Identifiers and numbers of certificates -/

theorem Oid.toElement_of_ofElement? {e : Der.Element} {id : Oid} (h : ofElement? e = some id) :
    id.toElement = e := by
  simp only [ofElement?, ofContent?, Option.bind_eq_bind, Option.bind_eq_some_iff,
    Der.contentOf?_eq_some_iff, Option.dite_none_right_eq_some, Option.some.injEq] at h
  obtain ⟨content, rfl, _, _, _, rfl⟩ := h
  rfl

theorem SerialNumber.toElement_of_ofElement? {e : Der.Element} {s : SerialNumber}
    (h : ofElement? e = some s) : s.toElement = e := by
  simp only [ofElement?, ofContent?, Option.bind_eq_some_iff, Der.contentOf?_eq_some_iff,
    Option.dite_none_right_eq_some, Option.some.injEq] at h
  obtain ⟨content, rfl, _, rfl⟩ := h
  rfl

end GridAuthz
