import GridAuthz.Der.Primitive
import GridAuthz.Proofs.Der.Elements

/-!
# Primitive values read back

What is written as a primitive value reads back as the same value.
-/

namespace GridAuthz.Der

/-! ### INTEGER -/

theorem toNat_unsignedContent (n : Nat) : Bytes.toNat (unsignedContent n) = n := by
  have hn := Bytes.toNat_ofNat n
  rw [unsignedContent]
  split
  case h_1 h =>
    rw [h] at hn
    simpa [Bytes.toNat_cons] using hn
  case h_2 b bs h =>
    rw [h] at hn
    split_ifs
    · exact hn
    · rw [Bytes.toNat_cons, hn]
      simp

/-- The content of a number that is not negative starts with a byte below 128, and not with a zero
that could be left out. -/
theorem unsignedContent_eq_cons (n : Nat) :
    ∃ b bs, unsignedContent n = b :: bs ∧ isIntegerContent (b :: bs) = true ∧ b < 0x80 := by
  rw [unsignedContent]
  split
  case h_1 => exact ⟨0, [], rfl, rfl, by decide⟩
  case h_2 b bs h =>
    have hb := Bytes.ne_zero_of_ofNat h
    split_ifs with hlt
    · refine ⟨b, bs, rfl, ?_, hlt⟩
      have hff : b ≠ 0xFF := by
        rintro rfl
        exact absurd hlt (by decide)
      cases bs <;> simp [isIntegerContent, hb, hff]
    · refine ⟨0, b :: bs, rfl, ?_, by decide⟩
      simpa [isIntegerContent] using hlt

@[simp] theorem Element.nat?_ofNat (n : Nat) : (Element.ofNat n).nat? = some n := by
  obtain ⟨b, bs, hcontent, hinteger, hb⟩ := unsignedContent_eq_cons n
  have hn := toNat_unsignedContent n
  rw [hcontent] at hn
  simp [Element.nat?, Element.ofNat, Element.contentOf?, hcontent, hinteger, hb, hn]

theorem Element.natBelow?_ofNat {n bound : Nat} (h : n < bound) :
    (Element.ofNat n).natBelow? bound = some n := by
  simp [Element.natBelow?, h]

/-! ### Truth values and strings -/

@[simp] theorem Element.bool?_ofBool (b : Bool) : (Element.ofBool b).bool? = some b := by
  cases b <;> rfl

@[simp] theorem Element.octets?_ofOctets (bytes : Bytes) :
    (Element.ofOctets bytes).octets? = some bytes := rfl

@[simp] theorem Element.utf8?_ofUtf8 (s : String) : (Element.ofUtf8 s).utf8? = some s :=
  Bytes.toText?_ofText s

@[simp] theorem AsciiText.ofElement?_toElement (s : AsciiText) :
    ofElement? s.toElement = some s := by
  have hchar : ∀ c ∈ s.text.toList, Char.ofNat (UInt8.ofNat c.toNat).toNat = c := by
    intro c hc
    have hascii : c.toNat < 0x80 := by simpa using List.all_eq_true.1 s.isAscii c hc
    rw [UInt8.toNat_ofNat', Nat.mod_eq_of_lt (by omega), Char.ofNat_toNat]
  have htext : s.toBytes.map (fun b => Char.ofNat b.toNat) = s.text.toList := by
    rw [toBytes, List.map_map]
    exact (List.map_congr_left hchar).trans (List.map_id _)
  rw [ofElement?, toElement, Element.contentOf?, if_pos rfl, Option.bind_some, ofBytes?, htext,
    String.ofList_toList, ofString?, dif_pos s.isAscii]

/-! ### Texts -/

@[simp] theorem Element.directoryText?_ofUtf8 (s : String) :
    (Element.ofUtf8 s).directoryText? = some s := by
  have hne : Tag.utf8String ≠ Tag.printableString := by decide
  simp [Element.directoryText?, Element.ofUtf8, hne]

/-! ### Bit strings -/

@[simp] theorem BitString.octets?_ofBytes (bytes : Bytes) :
    (BitString.ofBytes bytes).octets? = some bytes := rfl

@[simp] theorem BitString.ofElement?_toElement (s : BitString) :
    ofElement? s.toElement = some s := by
  have hunused : (UInt8.ofNat s.unused).toNat = s.unused := by
    have hlt := s.unused_lt
    rw [UInt8.toNat_ofNat', Nat.mod_eq_of_lt (by omega)]
  simpa [ofElement?, toElement, Element.contentOf?, content, ofContent?, hunused, s.unused_lt]
    using s.unused_eq

end GridAuthz.Der
