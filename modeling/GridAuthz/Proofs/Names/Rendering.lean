import GridAuthz.Proofs.Names.AttributeTypes
import GridAuthz.Proofs.Names.Patterns
import GridAuthz.Proofs.Names.Segmentation
import GridAuthz.Proofs.Text.Preparation

/-!
# Reading a name that was written

A name with one attribute in each place is written as groups, one for each attribute
(`Name.toList_toText`). Reading takes white space off the end of the text and so off the last value
only, where it does not count (`NamePattern.exists_isSegmentation_trimChars`). What is read is then a
pattern for the name and for no name that differs from it (`Name.exists_parse_toText`).
-/

namespace GridAuthz

/-! ### Values -/

namespace NamePattern

/-- No equals sign stands behind a slash. -/
def IsPlainValue (value : List Char) : Prop :=
  ∀ before after, value = before ++ '/' :: after → '=' ∉ after

theorem IsPlainValue.of_append {kept dropped : List Char} (h : IsPlainValue (kept ++ dropped)) :
    IsPlainValue kept := by
  intro before after hkept hmem
  refine h before (after ++ dropped) ?_ (List.mem_append_left _ hmem)
  rw [hkept, List.append_assoc, List.cons_append]

theorem IsPlainValue.isContinuation {value piece : List Char} (h : IsPlainValue value)
    (hpiece : piece ∈ (value.splitOn '/').tail) : IsContinuation piece := by
  cases hsplit : value.splitOn '/' with
  | nil => exact absurd hsplit (List.splitOn_ne_nil '/' value)
  | cons first rest =>
    rw [hsplit, List.tail_cons] at hpiece
    obtain ⟨before, after, rfl⟩ := List.append_of_mem hpiece
    have hvalue : value = (first ++ before.flatMap ('/' :: ·)) ++
        '/' :: (piece ++ after.flatMap ('/' :: ·)) := by
      rw [Text.eq_append_flatMap_of_splitOn hsplit, List.flatMap_append, List.flatMap_cons,
        List.append_assoc, List.cons_append]
    refine .of_notMem fun hmem => h _ _ hvalue (List.mem_append_left _ hmem)

/-- A group as names are written with. -/
structure Group.IsPlain (g : Group) : Prop where
  /-- The key is written like a type. -/
  looksLikeType_key : looksLikeType g.key = true
  /-- It names the type of the group. -/
  ofName?_key : AttributeType.ofName? (String.ofList g.key) = some g.kind
  /-- No equals sign stands behind a slash in the value. -/
  isPlainValue : IsPlainValue g.value

theorem Group.IsPlain.isWellFormed {g : Group} (h : g.IsPlain) : g.IsWellFormed := by
  refine ⟨?_, ?_, ?_, ?_⟩
  · exact notMem_of_looksLikeType h.looksLikeType_key (by decide) (by decide) (by decide)
  · exact notMem_of_looksLikeType h.looksLikeType_key (by decide) (by decide) (by decide)
  · rw [kindOfKey?, trimChars_of_looksLikeType h.looksLikeType_key]
    exact h.ofName?_key
  · intro piece hpiece
    exact h.isPlainValue.isContinuation hpiece

theorem IsSegmentation.of_flatMap {groups : List Group} (hne : groups ≠ [])
    (hgroups : ∀ g ∈ groups, g.IsWellFormed) :
    IsSegmentation groups (groups.flatMap ('/' :: ·.toChars)) := by
  refine ⟨hne, hgroups, ?_⟩
  rw [Text.cons_intercalate_eq_flatMap (by simpa using hne), List.flatMap_map]

/-- White space at the end of a text belongs to the last value, where it does not count. -/
theorem exists_isSegmentation_trimChars {groups : List Group} (hne : groups ≠ [])
    (hgroups : ∀ g ∈ groups, g.IsPlain) :
    ∃ trimmed, IsSegmentation trimmed (Text.trimChars (groups.flatMap ('/' :: ·.toChars))) ∧
      trimmed.map Group.listed = groups.map Group.listed := by
  obtain ⟨front, g, rfl⟩ := (List.eq_nil_or_concat groups).resolve_left hne
  rw [List.concat_eq_append] at hgroups ⊢
  obtain ⟨hfront, hg⟩ := List.forall_mem_append.1 hgroups
  rw [List.forall_mem_singleton] at hg
  obtain ⟨key, kind, value⟩ := g
  have htext : ∀ value, (front ++ [Group.mk key kind value]).flatMap ('/' :: ·.toChars) =
      (front.flatMap (fun g => '/' :: g.toChars) ++ '/' :: key) ++ '=' :: value := by
    intro value
    simp [Group.toChars]
  obtain ⟨before, hbefore⟩ :
      ∃ before, front.flatMap (fun g => '/' :: g.toChars) ++ '/' :: key = '/' :: before := by
    cases front with
    | nil => exact ⟨key, rfl⟩
    | cons g front => exact ⟨_, rfl⟩
  obtain ⟨kept, dropped, rfl, hdropped, htrim⟩ :=
    Text.exists_trimChars_eq (a := '/') (b := '=') rfl rfl before value
  refine ⟨front ++ [⟨key, kind, kept⟩], ?_, ?_⟩
  · have hlast : Group.IsPlain ⟨key, kind, kept⟩ :=
      ⟨hg.looksLikeType_key, hg.ofName?_key, hg.isPlainValue.of_append⟩
    rw [htext, hbefore, List.cons_append, htrim, ← List.cons_append, ← hbefore, ← htext]
    refine .of_flatMap (List.append_ne_nil_of_right_ne_nil _ (List.cons_ne_nil _ _)) ?_
    rw [List.forall_mem_append, List.forall_mem_singleton]
    exact ⟨fun g hmem => (hfront g hmem).isWellFormed, hlast.isWellFormed⟩
  · rw [List.map_append, List.map_append, List.map_singleton, List.map_singleton, Group.listed,
      Group.listed, Text.prepare_append_whitespace hdropped]

end NamePattern

/-! ### Names -/

namespace NameAttribute

/-- The group that an attribute is written as. -/
def group (a : NameAttribute) : NamePattern.Group :=
  ⟨(AttributeType.toName a.kind).toList, a.kind, a.valueText.toList⟩

theorem toList_toText (a : NameAttribute) : a.toText.toList = a.group.toChars := by
  simp [toText, group, NamePattern.Group.toChars]

theorem valueText_of_text? {a : NameAttribute} {text : String} (h : a.text? = some text) :
    a.valueText = text := by
  rw [valueText, h, Option.getD_some]

/-- A pattern with the group of an attribute lists what the attribute is compared by. -/
theorem prepared?_eq_listed {a : NameAttribute} (h : a.text?.isSome = true) :
    a.prepared? = some a.group.listed := by
  obtain ⟨text, htext⟩ := Option.isSome_iff_exists.1 h
  rw [prepared?, htext, NamePattern.Group.listed, group, valueText_of_text? htext,
    String.ofList_toList]
  rfl

end NameAttribute

namespace Name

variable {n : Name}

/-- A name with one attribute in each place is written as their groups. -/
theorem toList_toText (h : n.IsSingleValued) :
    n.toText.toList = (n.attributes.map NameAttribute.group).flatMap ('/' :: ·.toChars) := by
  have hpart : ∀ a : NameAttribute,
      (RelativeName.toText (.singleton a)).toList = '/' :: a.group.toChars := by
    intro a
    simp [RelativeName.toText, Der.SetOf.singleton, NameAttribute.toList_toText]
  rw [toText, String.toList_join, h.parts_eq]
  simp [List.flatMap_map, hpart]

/-- A name that was written is read as a pattern for it, and for no other name. The name has one
attribute in each of at least one place, each value is a text with no equals sign behind a slash, and
the types are found again by their names. -/
theorem exists_parse_toText (hparts : n.parts ≠ []) (hsingle : n.IsSingleValued)
    (htexts : n.HasOnlyTexts)
    (hslash : ∀ a ∈ n.attributes, ∀ text, a.text? = some text →
      NamePattern.IsPlainValue text.toList)
    (hkind : ∀ a ∈ n.attributes,
      AttributeType.ofName? (AttributeType.toName a.kind) = some a.kind) :
    ∃ p, NamePattern.parse n.toText = .ok p ∧
      ∀ m : Name, m.IsSingleValued → (p.isMatch m = true ↔ m.agrees n = true) := by
  have hne : n.attributes.map NameAttribute.group ≠ [] := by
    intro hnil
    rw [hsingle.parts_eq, List.map_eq_nil_iff.1 hnil] at hparts
    exact hparts rfl
  have hplain : ∀ g ∈ n.attributes.map NameAttribute.group, g.IsPlain := by
    intro g hg
    obtain ⟨a, ha, rfl⟩ := List.mem_map.1 hg
    obtain ⟨text, htext⟩ := Option.isSome_iff_exists.1 (htexts a ha)
    refine ⟨NamePattern.looksLikeType_toName a.kind, ?_, ?_⟩
    · rw [NameAttribute.group, String.ofList_toList]
      exact hkind a ha
    · rw [NameAttribute.group, NameAttribute.valueText_of_text? htext]
      exact hslash a ha text htext
  obtain ⟨groups, hsegmentation, hlisted⟩ := NamePattern.exists_isSegmentation_trimChars hne hplain
  rw [← toList_toText hsingle] at hsegmentation
  have hparse : NamePattern.parse n.toText =
      .ok ⟨Text.trim n.toText, groups.map NamePattern.Group.listed⟩ :=
    NamePattern.parse_of_isSegmentation (by rwa [Text.trim, String.toList_ofList])
  refine ⟨_, hparse, ?_⟩
  have hmatch : NamePattern.isMatch ⟨Text.trim n.toText, groups.map NamePattern.Group.listed⟩ n =
      true := by
    rw [NamePattern.isMatch_iff, hlisted, List.map_map, List.map_map]
    refine List.map_congr_left fun a ha => ?_
    exact NameAttribute.prepared?_eq_listed (htexts a ha)
  intro m hm
  constructor
  · intro hmatches
    exact agrees_of_isMatch hm hsingle hmatches hmatch
  · intro hagrees
    rw [isMatch_eq_of_agrees hagrees]
    exact hmatch

end Name

namespace Sample

/-- A mail address, and a common name with a slash in it and a space at its end. -/
def slashedName : Name :=
  ⟨[.singleton ⟨AttributeType.emailAddress, ⟨.ia5String, [0x61, 0x40, 0x62]⟩⟩,
    .singleton ⟨AttributeType.commonName, ⟨.utf8String, [0x68, 0x2F, 0x61, 0x20]⟩⟩]⟩

end Sample

theorem Name.exists_parse_toText_sample :
    Sample.slashedName.toText = "/emailAddress=a@b/CN=h/a " ∧
      ∃ p, NamePattern.parse Sample.slashedName.toText = .ok p ∧
        p.isMatch Sample.slashedName = true := by
  have htexts : Sample.slashedName.HasOnlyTexts := by decide +kernel
  have hsingle : Sample.slashedName.IsSingleValued := by
    simp [IsSingleValued, Sample.slashedName, Der.SetOf.singleton]
  have hslash : ∀ a ∈ Sample.slashedName.attributes, ∀ text, a.text? = some text →
      NamePattern.IsPlainValue text.toList := by
    intro a ha text htext before after hvalue hmem
    have hequals : ∀ a ∈ Sample.slashedName.attributes,
        a.text?.any (fun text => decide ('=' ∈ text.toList)) = false := by decide +kernel
    have hnone := hequals a ha
    simp [htext, hvalue, hmem] at hnone
  obtain ⟨p, hparse, hmatch⟩ := exists_parse_toText (n := Sample.slashedName)
    (List.cons_ne_nil _ _) hsingle htexts hslash (by decide +kernel)
  refine ⟨by decide +kernel, p, hparse, ?_⟩
  exact (hmatch Sample.slashedName hsingle).2 (agrees_self_iff.2 htexts)

end GridAuthz
