import GridAuthz.Name.SlashForm
import GridAuthz.Proofs.Der.DirectoryStrings
import GridAuthz.Proofs.Text.Cutting

/-!
# How attribute types are written

Every attribute type is written with letters, digits, dashes and dots only, whether by a short name, a
registered name or the dotted text of its identifier (`NamePattern.looksLikeType_toName`). So what is
written has no slash, no equals sign and no white space in it.
-/

namespace GridAuthz

/-! ### Characters -/

namespace NamePattern

variable {key : List Char}

theorem looksLikeType_iff :
    looksLikeType key = true ↔ key ≠ [] ∧ ∀ c ∈ key, c.isAlphanum = true ∨ c = '-' ∨ c = '.' := by
  simp [looksLikeType, or_assoc]

/-- The numbers of letters and digits. -/
theorem toNat_of_isAlphanum {c : Char} (h : c.isAlphanum = true) :
    48 ≤ c.toNat ∧ c.toNat ≤ 122 := by
  have hranges : (decide ('A'.val ≤ c.val ∧ c.val ≤ 'Z'.val) ||
      (decide ('a'.val ≤ c.val) && decide (c.val ≤ 'z'.val)) || c.isDigit) = true := h
  simp only [Bool.or_eq_true, Bool.and_eq_true, decide_eq_true_eq, Char.isDigit_iff_toNat,
    UInt32.le_iff_toNat_le] at hranges
  have hval : c.toNat = c.val.toNat := rfl
  have hA : 'A'.val.toNat = 65 := rfl
  have hZ : 'Z'.val.toNat = 90 := rfl
  have ha : 'a'.val.toNat = 97 := rfl
  have hz : 'z'.val.toNat = 122 := rfl
  have hzero : '0'.toNat = 48 := rfl
  have hnine : '9'.toNat = 57 := rfl
  omega

/-- The numbers of the characters that types are written with. -/
theorem toNat_of_looksLikeType (h : looksLikeType key = true) {c : Char} (hc : c ∈ key) :
    45 ≤ c.toNat ∧ c.toNat ≤ 122 := by
  rcases (looksLikeType_iff.1 h).2 c hc with halnum | rfl | rfl
  · have := toNat_of_isAlphanum halnum
    omega
  · decide
  · decide

theorem trimChars_of_looksLikeType (h : looksLikeType key = true) : Text.trimChars key = key := by
  refine Text.trimChars_eq_self fun c hc => ?_
  obtain ⟨hlow, hhigh⟩ := toNat_of_looksLikeType h hc
  simp only [Text.isWhitespace, Bool.or_eq_false_iff, Bool.and_eq_false_iff, beq_eq_false_iff_ne,
    decide_eq_false_iff_not]
  omega

theorem notMem_of_looksLikeType (h : looksLikeType key = true) {c : Char}
    (hc : c.isAlphanum = false) (hdash : c ≠ '-') (hdot : c ≠ '.') : c ∉ key := by
  intro hmem
  rcases (looksLikeType_iff.1 h).2 c hmem with halnum | heq | heq
  · exact absurd halnum (by simp [hc])
  · exact hdash heq
  · exact hdot heq

/-- A text with bytes that types are written with. Computing them takes less than computing the
characters. -/
theorem looksLikeType_of_bytes {s : String}
    (h : looksLikeType ((Bytes.ofText s).map fun b => Char.ofNat b.toNat) = true) :
    looksLikeType s.toList = true := by
  have hlt : ∀ b ∈ Bytes.ofText s, b < 0x80 := by
    intro b hb
    have hhigh := (toNat_of_looksLikeType h (List.mem_map_of_mem hb)).2
    have hvalid : b.toNat.isValidChar := .inl (Nat.lt_trans b.toNat_lt (by decide))
    have hnat : (Char.ofNat b.toNat).toNat = b.toNat := by
      rw [Char.ofNat, dif_pos hvalid]
      rfl
    rw [hnat] at hhigh
    rw [UInt8.lt_iff_toNat_lt]
    exact Nat.lt_of_le_of_lt hhigh (by decide)
  rw [Bytes.toList_eq_map_of_lt hlt]
  exact h

end NamePattern

/-! ### Dotted texts -/

theorem Oid.arcs_ne_nil (oid : Oid) : oid.arcs ≠ [] := by
  obtain ⟨content, hisOid⟩ := oid
  obtain ⟨arcs, harcs⟩ := Option.isSome_iff_exists.1 hisOid
  have hget : Oid.arcs ⟨content, hisOid⟩ = arcs := Option.get_of_eq_some hisOid harcs
  rw [hget]
  rintro rfl
  cases content with
  | nil => simp [arcsOfContent?] at harcs
  | cons root body =>
    rw [arcsOfContent?] at harcs
    split at harcs
    · obtain ⟨rest, -, hcons⟩ := Option.bind_eq_some_iff.1 harcs
      cases hcons
    · cases harcs

theorem Oid.toList_toDotted (oid : Oid) :
    '.' :: oid.toDotted.toList = oid.arcs.flatMap fun arc => '.' :: Nat.toDigits 10 arc := by
  have htexts : (oid.arcs.map toString).map String.toList ≠ [] := by simpa using oid.arcs_ne_nil
  have hsplit := Text.cons_intercalate_eq_flatMap (c := '.') htexts
  rw [toDotted, String.toList_intercalate]
  refine hsplit.trans ?_
  simp [List.flatMap_map]

theorem NamePattern.looksLikeType_toDotted (oid : Oid) :
    looksLikeType oid.toDotted.toList = true := by
  have htext := oid.toList_toDotted
  refine looksLikeType_iff.2 ⟨?_, ?_⟩
  · intro hnil
    obtain ⟨arc, arcs, harcs⟩ := List.exists_cons_of_ne_nil oid.arcs_ne_nil
    rw [hnil, harcs, List.flatMap_cons, List.cons_append] at htext
    have hdigits := (List.append_eq_nil_iff.1 (List.cons.inj htext).2.symm).1
    exact Nat.toDigits_ne_nil hdigits
  · intro c hc
    have hmem : c ∈ oid.arcs.flatMap fun arc => '.' :: Nat.toDigits 10 arc :=
      htext ▸ List.mem_cons_of_mem _ hc
    obtain ⟨arc, -, hc⟩ := List.mem_flatMap.1 hmem
    obtain rfl | hdigit := List.mem_cons.1 hc
    · exact .inr (.inr rfl)
    · have hisDigit := Nat.isDigit_of_mem_toDigits (b := 10) (by decide) (by decide) hdigit
      exact .inl (by simp [Char.isAlphanum, hisDigit])

/-! ### Names -/

theorem NamePattern.looksLikeType_of_mem_registry {entry : String × Oid}
    (h : entry ∈ Oid.registry) : looksLikeType entry.1.toList = true := by
  have hbytes : ∀ listed ∈ Oid.Registry.directory ++ Oid.Registry.schema ++
      Oid.Registry.certificates,
      looksLikeType ((Bytes.ofText listed.1).map fun b => Char.ofNat b.toNat) = true := by
    decide +kernel
  rw [Oid.registry, List.mem_filterMap] at h
  obtain ⟨listed, hlisted, hentry⟩ := h
  obtain ⟨oid, -, rfl⟩ := Option.map_eq_some_iff.1 hentry
  exact looksLikeType_of_bytes (hbytes listed hlisted)

/-- The name of a type is written like one. -/
theorem NamePattern.looksLikeType_toName (kind : Oid) :
    looksLikeType (AttributeType.toName kind).toList = true := by
  have hshort : ∀ entry ∈ AttributeType.shortNames, looksLikeType entry.1.toList = true := by
    decide +kernel
  rw [AttributeType.toName]
  split
  case h_1 entry hfind => exact hshort entry (List.mem_of_find?_eq_some hfind)
  case h_2 =>
    cases hname : kind.name? with
    | none => exact looksLikeType_toDotted kind
    | some name =>
      obtain ⟨entry, hfind, rfl⟩ := Option.map_eq_some_iff.1 hname
      exact looksLikeType_of_mem_registry (List.mem_of_find?_eq_some hfind)

end GridAuthz
