import GridAuthz.Proofs.Der.Primitives

/-!
# Directory strings

Which elements have a text as a directory string (`Element.isSome_directoryText?_iff`), and what
becomes of the text when spaces are put behind the content (`Element.directoryText?_pad`).
-/

namespace GridAuthz

theorem Bytes.ofText_of_toText? {bytes : Bytes} {s : String} (h : toText? bytes = some s) :
    ofText s = bytes := by
  rw [toText?, String.fromUTF8?, Option.dite_none_right_eq_some] at h
  obtain ⟨_, h⟩ := h
  cases h
  simp [ofText, String.toUTF8, String.fromUTF8]

@[simp] theorem Bytes.ofText_append (s t : String) : ofText (s ++ t) = ofText s ++ ofText t := by
  simp [ofText, String.toUTF8, ByteArray.data_append]

@[simp] theorem Bytes.ofText_ofList (cs : List Char) :
    ofText (String.ofList cs) = cs.flatMap String.utf8EncodeChar := by
  rw [ofText, String.toUTF8, String.toByteArray_ofList, List.utf8Encode]
  exact List.toList_data_toByteArray

/-- A character of small bytes only has one byte, its number. -/
theorem Bytes.exists_utf8EncodeChar_eq {c : Char}
    (h : ∀ b ∈ String.utf8EncodeChar c, b < 0x80) :
    ∃ b : UInt8, String.utf8EncodeChar c = [b] ∧ Char.ofNat b.toNat = c := by
  have hval : c.toNat = c.val.toNat := rfl
  rw [String.utf8EncodeChar] at h ⊢
  simp only [← hval] at h ⊢
  have hfirst := h _ (List.head_mem (by split_ifs <;> simp))
  split_ifs at hfirst ⊢ with hsmall
  · refine ⟨_, rfl, ?_⟩
    have hnat : (UInt8.ofNat c.toNat).toNat = c.toNat := by
      rw [UInt8.toNat_ofNat', Nat.mod_eq_of_lt (by omega)]
    rw [hnat, Char.ofNat_toNat]
  -- The first of several bytes is not small.
  all_goals
    simp [UInt8.lt_iff_toNat_lt] at hfirst
    omega

/-- The bytes of an ASCII text are its characters. -/
theorem Bytes.toList_eq_map_of_lt {s : String} (h : ∀ b ∈ ofText s, b < 0x80) :
    s.toList = (ofText s).map fun b => Char.ofNat b.toNat := by
  rw [← String.ofList_toList (s := s), ofText_ofList] at h ⊢
  rw [String.toList_ofList]
  generalize s.toList = cs at h ⊢
  induction cs with
  | nil => rfl
  | cons c cs ih =>
    rw [List.flatMap_cons, List.forall_mem_append] at h
    obtain ⟨b, hbyte, hc⟩ := exists_utf8EncodeChar_eq h.1
    rw [List.flatMap_cons, hbyte, List.singleton_append, List.map_cons, hc, ← ih h.2]

namespace Der.Element

/-- A PrintableString, a UTF8String or an IA5String with content of its type. -/
def IsDirectoryString (e : Element) : Prop :=
  e.tag = .printableString ∧ (∀ b ∈ e.content, isPrintable b = true) ∨
  e.tag = .utf8String ∧ e.content.toByteArray.IsValidUTF8 ∨
  e.tag = .ia5String ∧ ∀ b ∈ e.content, b < 0x80

theorem isSome_directoryText?_iff {e : Element} :
    e.directoryText?.isSome = true ↔ e.IsDirectoryString := by
  obtain ⟨tag, content⟩ := e
  have hutf8 : Tag.utf8String ≠ Tag.printableString := by decide
  have hia5 : Tag.ia5String ≠ Tag.printableString := by decide
  have hia5' : Tag.ia5String ≠ Tag.utf8String := by decide
  rw [directoryText?, IsDirectoryString]
  by_cases hp : tag = .printableString
  · subst hp
    simp [printableText?, hutf8.symm, hia5.symm]
  by_cases hu : tag = .utf8String
  · subst hu
    simp [Bytes.toText?, String.fromUTF8?, hutf8, hia5'.symm]
  by_cases hi : tag = .ia5String
  · subst hi
    have hchar : ∀ b : UInt8, (Char.ofNat b.toNat).toNat = b.toNat := by
      intro b
      have hvalid : b.toNat.isValidChar := .inl (by have := b.toNat_lt; omega)
      rw [Char.ofNat, dif_pos hvalid]
      rfl
    simp [AsciiText.ofBytes?, AsciiText.ofString?, hia5, hia5', hchar, UInt8.lt_iff_toNat_lt]
  · simp [hp, hu, hi]

/-! ### Spaces behind a text -/

section Spaces

variable {bytes : Bytes} {text : String} (count : Nat)

/-- A text with spaces behind it. -/
def withSpaces (text : String) (count : Nat) : String :=
  String.ofList (text.toList ++ List.replicate count ' ')

theorem printableText?_append_spaces (h : printableText? bytes = some text) :
    printableText? (bytes ++ List.replicate count 0x20) = some (withSpaces text count) := by
  rw [printableText?, Option.ite_none_right_eq_some] at h
  obtain ⟨hall, h⟩ := h
  cases h
  have hspaces : (List.replicate count 0x20).all isPrintable = true := by simp [isPrintable]
  simp [printableText?, withSpaces, hall, hspaces]

theorem toText?_append_spaces (h : Bytes.toText? bytes = some text) :
    Bytes.toText? (bytes ++ List.replicate count 0x20) = some (withSpaces text count) := by
  have hspace : String.utf8EncodeChar ' ' = [0x20] := by decide
  have hspaces : List.replicate count 0x20 =
      Bytes.ofText (String.ofList (List.replicate count ' ')) := by
    rw [Bytes.ofText_ofList, List.flatMap_replicate, hspace, List.flatten_replicate_singleton]
  rw [← Bytes.ofText_of_toText? h, hspaces, ← Bytes.ofText_append, Bytes.toText?_ofText,
    withSpaces, String.ofList_append, String.ofList_toList]

theorem asciiText_append_spaces {ascii : AsciiText} (h : AsciiText.ofBytes? bytes = some ascii) :
    (AsciiText.ofBytes? (bytes ++ List.replicate count 0x20)).map (·.text) =
      some (withSpaces ascii.text count) := by
  simp only [AsciiText.ofBytes?, AsciiText.ofString?, Option.dite_none_right_eq_some,
    Option.some.injEq] at h
  obtain ⟨hall, rfl⟩ := h
  have hall' : (String.ofList ((bytes ++ List.replicate count 0x20).map
      fun b : UInt8 => Char.ofNat b.toNat)).toList.all (·.toNat < 0x80) = true := by
    simpa using hall
  rw [AsciiText.ofBytes?, AsciiText.ofString?, dif_pos hall']
  simp [withSpaces]

/-- The element with spaces behind its content. -/
def pad (count : Nat) (e : Element) : Element :=
  { e with content := e.content ++ List.replicate count 0x20 }

@[simp] theorem length_content_pad (e : Element) :
    (e.pad count).content.length = e.content.length + count := by
  simp [pad]

theorem directoryText?_pad {e : Element} (h : e.directoryText? = some text) :
    (e.pad count).directoryText? = some (withSpaces text count) := by
  have htag : (e.pad count).tag = e.tag := rfl
  have hcontent : (e.pad count).content = e.content ++ List.replicate count 0x20 := rfl
  rw [directoryText?, htag, hcontent]
  rw [directoryText?] at h
  by_cases hp : e.tag = .printableString
  · rw [if_pos hp] at h ⊢
    exact printableText?_append_spaces count h
  by_cases hu : e.tag = .utf8String
  · rw [if_neg hp, if_pos hu] at h ⊢
    exact toText?_append_spaces count h
  · rw [if_neg hp, if_neg hu, Option.ite_none_right_eq_some] at h
    obtain ⟨hi, h⟩ := h
    obtain ⟨ascii, hascii, rfl⟩ := Option.map_eq_some_iff.1 h
    rw [if_neg hp, if_neg hu, if_pos hi]
    exact asciiText_append_spaces count hascii

end Spaces

end Der.Element

end GridAuthz
