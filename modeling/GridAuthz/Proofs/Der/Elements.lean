import GridAuthz.Der.Element
import GridAuthz.Proofs.ByteStrings

/-!
# Reading what was written

An element that is not too long reads back from its bytes, whatever follows them
(`read?_encode_append`), and so does a list of elements (`readAll?_encodeAll`). The bound on the
length of nested elements comes from that of the outermost one (`length_content_le_of_mem`).
-/

namespace GridAuthz.Der

theorem Tag.ofOctet?_octet (tag : Tag) : Tag.ofOctet? tag.octet = some tag := by
  rw [ofOctet?, dif_pos tag.isTag]

@[simp] theorem Tag.isConstructed_contextConstructed (n : Nat) :
    (Tag.contextConstructed n).isConstructed = true := by
  have small : ∀ k : Fin 31, (Tag.contextConstructed k).isConstructed = true := by decide
  have := small ⟨n % 31, Nat.mod_lt n (by decide)⟩
  simpa [Tag.contextConstructed, Nat.mod_mod] using this

/-! ### Lengths -/

theorem digitCount_le_of_le_maxLength {n : Nat} (h : n ≤ maxLength) : Bytes.digitCount n ≤ 4 := by
  by_contra hlt
  have hne : n ≠ 0 := by
    rintro rfl
    simp [Bytes.digitCount] at hlt
  have hle := Bytes.pow_le_of_digitCount hne
  have hpow : 256 ^ 4 ≤ 256 ^ (Bytes.digitCount n - 1) :=
    Nat.pow_le_pow_right (by decide) (by omega)
  rw [maxLength] at h
  omega

theorem readLength?_encodeLength_append {n : Nat} (h : n ≤ maxLength) (rest : Bytes) :
    readLength? (encodeLength n ++ rest) = some (n, rest) := by
  by_cases hshort : n < 0x80
  · have hbyte : UInt8.ofNat n < 0x80 := by
      rw [UInt8.lt_iff_toNat_lt, UInt8.toNat_ofNat', Nat.mod_eq_of_lt (by omega)]
      exact hshort
    have hvalue : (UInt8.ofNat n).toNat = n := by
      rw [UInt8.toNat_ofNat', Nat.mod_eq_of_lt (by omega)]
    simp [encodeLength, hshort, readLength?, hbyte, hvalue]
  · have hcount := digitCount_le_of_le_maxLength h
    have hvalue : (UInt8.ofNat (0x80 + Bytes.digitCount n)).toNat = 0x80 + Bytes.digitCount n := by
      rw [UInt8.toNat_ofNat', Nat.mod_eq_of_lt (by omega)]
    have hbyte : ¬UInt8.ofNat (0x80 + Bytes.digitCount n) < 0x80 := by
      rw [UInt8.lt_iff_toNat_lt, hvalue]
      simp
    have htake : (Bytes.ofNat n ++ rest).take (Bytes.digitCount n) = Bytes.ofNat n :=
      List.take_left' (Bytes.length_ofNat n)
    have hdrop : (Bytes.ofNat n ++ rest).drop (Bytes.digitCount n) = rest :=
      List.drop_left' (Bytes.length_ofNat n)
    rw [encodeLength, if_neg hshort, List.cons_append, readLength?, if_neg hbyte]
    simp only [hvalue, Nat.add_sub_cancel_left, htake, hdrop, Bytes.toNat_ofNat]
    rw [if_pos ⟨by rw [encodeLength, if_neg hshort], h⟩]

namespace Element

/-! ### Elements -/

theorem read?_encode_append {e : Element} (h : e.content.length ≤ maxLength) (rest : Bytes) :
    read? (e.encode ++ rest) = some (e, rest) := by
  rw [encode, List.cons_append, List.append_assoc, read?]
  simp only [Tag.ofOctet?_octet, readLength?_encodeLength_append h, Option.bind_eq_bind,
    Option.bind_some]
  rw [if_pos (by simp), List.take_left, List.drop_left]

theorem decode?_encode {e : Element} (h : e.content.length ≤ maxLength) :
    decode? e.encode = some e := by
  have hread := read?_encode_append h []
  rw [List.append_nil] at hread
  rw [decode?, hread]

theorem encode_ne_nil (e : Element) : e.encode ≠ [] := by
  simp [encode]

theorem encodeAll_cons (e : Element) (es : List Element) :
    encodeAll (e :: es) = e.encode ++ encodeAll es := rfl

theorem encodeAll_singleton (e : Element) : encodeAll [e] = e.encode := by
  simp [encodeAll]

theorem readUpTo?_succ {bs : Bytes} (h : bs ≠ []) (fuel : Nat) :
    readUpTo? (fuel + 1) bs = (do
      let (e, rest) ← read? bs
      return e :: (← readUpTo? fuel rest)) := by
  cases bs with
  | nil => exact absurd rfl h
  | cons b bs => rfl

theorem readUpTo?_encodeAll {es : List Element} (h : ∀ e ∈ es, e.content.length ≤ maxLength)
    {fuel : Nat} (hfuel : es.length ≤ fuel) : readUpTo? fuel (encodeAll es) = some es := by
  induction es generalizing fuel with
  | nil => cases fuel <;> rfl
  | cons e es ih =>
    obtain ⟨he, hes⟩ := List.forall_mem_cons.1 h
    cases fuel with
    | zero => simp at hfuel
    | succ fuel =>
      have hrest := ih hes (by simpa using hfuel)
      rw [encodeAll_cons, readUpTo?_succ (by simp [encode_ne_nil]), read?_encode_append he]
      simp [hrest]

theorem length_le_length_encodeAll (es : List Element) : es.length ≤ (encodeAll es).length := by
  induction es with
  | nil => simp
  | cons e es ih =>
    have := List.length_pos_iff.2 (encode_ne_nil e)
    rw [encodeAll_cons, List.length_append, List.length_cons]
    omega

theorem readAll?_encodeAll {es : List Element} (h : ∀ e ∈ es, e.content.length ≤ maxLength) :
    readAll? (encodeAll es) = some es :=
  readUpTo?_encodeAll h (length_le_length_encodeAll es)

/-! ### Bounds on lengths -/

theorem length_content_le (e : Element) : e.content.length ≤ e.encode.length := by
  simp [encode]
  omega

theorem length_encode_le {e : Element} (h : e.content.length ≤ maxLength) :
    e.encode.length ≤ e.content.length + 6 := by
  have hcount := digitCount_le_of_le_maxLength h
  have hlength : (encodeLength e.content.length).length ≤ 5 := by
    rw [encodeLength]
    split
    case isTrue => exact Nat.le_add_left 1 4
    case isFalse =>
      rw [List.length_cons, Bytes.length_ofNat]
      exact Nat.succ_le_succ hcount
  simp only [encode, List.length_cons, List.length_append]
  omega

theorem length_encode_le_of_mem {e : Element} {es : List Element} (h : e ∈ es) :
    e.encode.length ≤ (encodeAll es).length := by
  induction es with
  | nil => simp at h
  | cons d es ih =>
    rw [encodeAll_cons, List.length_append]
    rcases List.mem_cons.1 h with rfl | h
    · omega
    · have := ih h
      omega

theorem length_content_le_of_mem {e : Element} {es : List Element} (h : e ∈ es) :
    e.content.length ≤ (encodeAll es).length :=
  (length_content_le e).trans (length_encode_le_of_mem h)

/-! ### Sequences and explicit tags -/

theorem length_content_sequenceOf_singleton_le {α : Type} {encode : α → Element} {x : α}
    {xs : List α} (h : x ∈ xs) :
    (sequenceOf encode [x]).content.length ≤ (sequenceOf encode xs).content.length := by
  have hle := length_encode_le_of_mem (List.mem_map_of_mem (f := encode) h)
  have heq : (sequenceOf encode [x]).content = (encode x).encode := List.append_nil _
  rwa [heq]

theorem sequence?_sequence {fields : List Element} (h : (encodeAll fields).length ≤ maxLength) :
    (sequence fields).sequence? = some fields := by
  rw [sequence?, fieldsOf?, contentOf?, sequence, if_pos rfl, Option.bind_some]
  exact readAll?_encodeAll fun e he => (length_content_le_of_mem he).trans h

/-- The fields of a sequence are read from its encoding. -/
theorem decode?_encode_bind_sequence? {fields : List Element}
    (h : (encodeAll fields).length ≤ maxLength) :
    (decode? (sequence fields).encode).bind sequence? = some fields := by
  rw [decode?_encode h, Option.bind_some, sequence?_sequence h]

theorem explicit?_explicit {e : Element} (n : Nat) (h : e.content.length ≤ maxLength) :
    (e.explicit n).explicit? = some e := by
  rw [explicit?, explicit, if_pos (Tag.isConstructed_contextConstructed n), decode?_encode h]

end Element

end GridAuthz.Der
