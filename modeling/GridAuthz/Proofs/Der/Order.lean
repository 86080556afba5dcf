import GridAuthz.Proofs.Der.Forms

/-!
# The order of encodings

The members of a set are ordered by their encodings, and of two elements with the same tag the one
with the shorter content comes first (`Element.encode_lt_of_length_lt`), whatever it is.
-/

namespace GridAuthz

/-- Digits of the same number come in the order of the numbers they write, whatever follows them. -/
theorem Bytes.append_lt_append_of_toNat_lt {as bs : Bytes} (hlen : as.length = bs.length)
    (h : toNat as < toNat bs) (xs ys : Bytes) : as ++ xs < bs ++ ys := by
  induction as generalizing bs with
  | nil =>
    obtain rfl : bs = [] := List.length_eq_zero_iff.1 hlen.symm
    simp at h
  | cons a as ih =>
    cases bs with
    | nil => simp at hlen
    | cons b bs =>
      have hlen' : as.length = bs.length := by simpa using hlen
      rw [toNat_cons, toNat_cons, hlen'] at h
      rw [List.cons_append, List.cons_append, List.cons_lt_cons_iff, UInt8.lt_iff_toNat_lt]
      rcases Nat.lt_trichotomy a.toNat b.toNat with hlt | heq | hgt
      · exact .inl hlt
      · rw [heq] at h
        exact .inr ⟨UInt8.toNat_inj.1 heq, ih hlen' (by omega)⟩
      · have hb := toNat_lt bs
        have hmul := Nat.mul_le_mul_right (256 ^ bs.length) (Nat.succ_le_of_lt hgt)
        rw [Nat.succ_mul] at hmul
        omega

namespace Der

/-- A shorter length comes first, whatever follows it. -/
theorem encodeLength_append_lt {m n : Nat} (h : m < n) (hmax : n ≤ maxLength) (xs ys : Bytes) :
    encodeLength m ++ xs < encodeLength n ++ ys := by
  have hcount := digitCount_le_of_le_maxLength hmax
  have hmono := digitCount_mono h.le
  have hbyte : ∀ k : Nat, k < 256 → (UInt8.ofNat k).toNat = k := fun k hk => by
    rw [UInt8.toNat_ofNat', Nat.mod_eq_of_lt hk]
  rw [encodeLength, encodeLength]
  by_cases hm : m < 0x80
  · rw [if_pos hm]
    split
    · rw [List.singleton_append, List.singleton_append, List.cons_lt_cons_iff,
        UInt8.lt_iff_toNat_lt, hbyte m (by omega), hbyte n (by omega)]
      exact .inl h
    · rw [List.singleton_append, List.cons_append, List.cons_lt_cons_iff,
        UInt8.lt_iff_toNat_lt, hbyte m (by omega), hbyte _ (by omega)]
      exact .inl (by omega)
  · rw [if_neg hm, if_neg (by omega), List.cons_append, List.cons_append, List.cons_lt_cons_iff,
      UInt8.lt_iff_toNat_lt, hbyte _ (by omega), hbyte _ (by omega)]
    rcases Nat.lt_or_eq_of_le hmono with hlt | heq
    · exact .inl (by omega)
    · refine .inr ⟨by rw [heq], Bytes.append_lt_append_of_toNat_lt ?_ ?_ xs ys⟩
      · rw [Bytes.length_ofNat, Bytes.length_ofNat, heq]
      · rwa [Bytes.toNat_ofNat, Bytes.toNat_ofNat]

namespace Element

theorem encode_lt_of_length_lt {d e : Element} (htag : d.tag = e.tag)
    (h : d.content.length < e.content.length) (hmax : e.content.length ≤ maxLength) :
    d.encode < e.encode := by
  rw [encode, encode, htag, List.cons_lt_cons_iff]
  exact .inr ⟨rfl, encodeLength_append_lt h hmax d.content e.content⟩

/-! ### Lengths -/

theorem encodeAll_append (ds es : List Element) :
    encodeAll (ds ++ es) = encodeAll ds ++ encodeAll es := List.flatMap_append

theorem length_content_add_two_le (e : Element) : e.content.length + 2 ≤ e.encode.length := by
  have hlength : 1 ≤ (encodeLength e.content.length).length := by
    rw [encodeLength]
    split <;> simp
  simp only [encode, List.length_cons, List.length_append]
  omega

/-- An element grows by little more than its content. -/
theorem length_encode_le_add {d e : Element} {count : Nat}
    (h : d.content.length ≤ e.content.length + count)
    (hmax : e.content.length + count ≤ maxLength) :
    d.encode.length ≤ e.encode.length + (count + 4) := by
  have hd := length_encode_le (h.trans hmax)
  have he := length_content_add_two_le e
  omega

end Element

end Der

end GridAuthz
