import GridAuthz.Name.SlashForm
import GridAuthz.Proofs.Der.DirectoryStrings
import GridAuthz.Proofs.Names
import GridAuthz.Proofs.Names.Agreement

/-!
# Names and patterns

An attribute is compared by its type and the prepared form of its value, both with another
attribute and with what a pattern lists (`NameAttribute.prepared?`). So a pattern does not tell
names apart that agree, and names with one attribute in each place agree if one pattern matches
both (`Name.agrees_isMatch`).
-/

namespace GridAuthz

/-! ### Attributes -/

/-- What an attribute is compared by: its type and the prepared form of its value. -/
def NameAttribute.prepared? (a : NameAttribute) : Option (Oid × String) :=
  a.text?.map fun text => (a.kind, Text.prepare text)

theorem NameAttribute.agrees_iff_prepared? {a b : NameAttribute} :
    a.agrees b = true ↔ ∃ listed, a.prepared? = some listed ∧ b.prepared? = some listed := by
  rw [agrees_iff, prepared?, prepared?]
  constructor
  · rintro ⟨hkind, s, t, hs, ht, heq⟩
    exact ⟨(a.kind, Text.prepare s), by rw [hs]; rfl, by rw [ht, hkind, heq]; rfl⟩
  · rintro ⟨listed, ha, hb⟩
    obtain ⟨s, hs, rfl⟩ := Option.map_eq_some_iff.1 ha
    obtain ⟨t, ht, heq⟩ := Option.map_eq_some_iff.1 hb
    obtain ⟨hkind, hprepared⟩ := Prod.mk.inj heq
    exact ⟨hkind.symm, s, t, hs, ht, hprepared.symm⟩

theorem NamePattern.attributeMatches_iff {listed : Oid × String} {a : NameAttribute} :
    attributeMatches listed a = true ↔ a.prepared? = some listed := by
  obtain ⟨kind, value⟩ := listed
  rw [attributeMatches, NameAttribute.prepared?]
  cases a.text? <;> simp

/-! ### Lists of attributes -/

theorem NamePattern.allMatch_iff {listed : List (Oid × String)} {as : List NameAttribute} :
    allMatch listed as = true ↔ as.map NameAttribute.prepared? = listed.map some := by
  induction listed generalizing as with
  | nil => cases as <;> simp [allMatch]
  | cons l listed ih =>
    cases as with
    | nil => simp [allMatch]
    | cons a as => simp [allMatch, attributeMatches_iff, ih]

theorem NamePattern.isMatch_iff {p : NamePattern} {n : Name} :
    p.isMatch n = true ↔ n.attributes.map NameAttribute.prepared? = p.attributes.map some :=
  allMatch_iff

theorem NameAttribute.forall₂_agrees_iff {as bs : List NameAttribute} :
    List.Forall₂ (fun a b => a.agrees b = true) as bs ↔
      ∃ listed : List (Oid × String), as.map prepared? = listed.map some ∧
        bs.map prepared? = listed.map some := by
  constructor
  · intro h
    induction h with
    | nil => exact ⟨[], rfl, rfl⟩
    | cons hab _ ih =>
      obtain ⟨l, ha, hb⟩ := agrees_iff_prepared?.1 hab
      obtain ⟨listed, has, hbs⟩ := ih
      exact ⟨l :: listed, by simp [ha, has], by simp [hb, hbs]⟩
  · rintro ⟨listed, has, hbs⟩
    induction listed generalizing as bs with
    | nil =>
      rw [List.map_nil, List.map_eq_nil_iff] at has hbs
      rw [has, hbs]
      exact .nil
    | cons l listed ih =>
      obtain ⟨a, as, rfl, ha, has⟩ := List.map_eq_cons_iff.1 has
      obtain ⟨b, bs, rfl, hb, hbs⟩ := List.map_eq_cons_iff.1 hbs
      exact .cons (agrees_iff_prepared?.2 ⟨l, ha, hb⟩) (ih has hbs)

/-! ### Names -/

namespace Name

variable {n m : Name}

/-- What relates the attributes of names place by place relates them one after the other, wherever a
relative name ends. -/
theorem forall₂_attributes {r : NameAttribute → NameAttribute → Prop}
    (h : List.Forall₂ (fun p q => List.Forall₂ r p.members q.members) n.parts m.parts) :
    List.Forall₂ r n.attributes m.attributes := by
  rw [attributes, attributes]
  generalize n.parts = ps, m.parts = qs at h ⊢
  induction h with
  | nil => exact .nil
  | cons hpq _ ih =>
    rw [List.flatMap_cons, List.flatMap_cons]
    exact List.rel_append hpq ih

theorem forall₂_attributes_of_agrees (h : n.agrees m = true) :
    List.Forall₂ (fun a b => a.agrees b = true) n.attributes m.attributes :=
  forall₂_attributes ((agrees_iff.1 h).imp fun _ _ => allAgree_iff.1)

/-- Each relative name has one attribute. -/
def IsSingleValued (n : Name) : Prop := ∀ part ∈ n.parts, ∃ a, part.members = [a]

theorem IsSingleValued.parts_eq (h : n.IsSingleValued) :
    n.parts = n.attributes.map Der.SetOf.singleton := by
  obtain ⟨parts⟩ := n
  rw [IsSingleValued] at h
  rw [attributes]
  induction parts with
  | nil => rfl
  | cons part parts ih =>
    obtain ⟨hpart, hparts⟩ := List.forall_mem_cons.1 h
    obtain ⟨a, ha⟩ := hpart
    have heq : part = Der.SetOf.singleton a := by
      obtain ⟨members, _⟩ := part
      cases ha
      rfl
    rw [List.flatMap_cons, ha, List.singleton_append, List.map_cons, ← heq, ← ih hparts]

theorem agrees_iff_of_isSingleValued (hn : n.IsSingleValued) (hm : m.IsSingleValued) :
    n.agrees m = true ↔ List.Forall₂ (fun a b => a.agrees b = true) n.attributes m.attributes := by
  rw [agrees_iff, hn.parts_eq, hm.parts_eq, List.forall₂_map_left_iff, List.forall₂_map_right_iff]
  have hpart : ∀ a b, partsAgree (.singleton a) (.singleton b) = a.agrees b := by
    intro a b
    simp [partsAgree, allAgree, Der.SetOf.singleton]
  simp only [hpart]

theorem isMatch_eq_of_agrees (h : n.agrees m = true) (p : NamePattern) :
    p.isMatch n = p.isMatch m := by
  obtain ⟨listed, hn, hm⟩ := NameAttribute.forall₂_agrees_iff.1 (forall₂_attributes_of_agrees h)
  rw [Bool.eq_iff_iff, NamePattern.isMatch_iff, NamePattern.isMatch_iff, hn, hm]

theorem agrees_of_isMatch (hn : n.IsSingleValued) (hm : m.IsSingleValued) {p : NamePattern}
    (hpn : p.isMatch n = true) (hpm : p.isMatch m = true) : n.agrees m = true :=
  (agrees_iff_of_isSingleValued hn hm).2 (NameAttribute.forall₂_agrees_iff.2
    ⟨p.attributes, NamePattern.isMatch_iff.1 hpn, NamePattern.isMatch_iff.1 hpm⟩)

theorem hasOnlyTexts_iff :
    n.HasOnlyTexts ↔ ∀ a ∈ n.attributes, a.value.IsDirectoryString := by
  simp only [HasOnlyTexts, NameAttribute.text?, Der.Element.isSome_directoryText?_iff]

/-- Agreement is symmetric and transitive, and a name agrees with itself exactly if all its values
are directory strings. A pattern matches both or neither of two names that agree, and names with one
attribute in each relative name agree if one pattern matches both. -/
theorem agrees_isMatch :
    (∀ n m : Name, n.agrees m = true → m.agrees n = true) ∧
    (∀ n m k : Name, n.agrees m = true → m.agrees k = true → n.agrees k = true) ∧
    (∀ n : Name, n.agrees n = true ↔ ∀ a ∈ n.attributes, a.value.IsDirectoryString) ∧
    (∀ (p : NamePattern) (n m : Name), n.agrees m = true → p.isMatch n = p.isMatch m) ∧
    ∀ (p : NamePattern) (n m : Name), n.IsSingleValued → m.IsSingleValued →
      p.isMatch n = true → p.isMatch m = true → n.agrees m = true := by
  refine ⟨fun n m h => agrees_symm h, fun n m k h h' => agrees_trans h h', ?_, ?_, ?_⟩
  · intro n
    rw [agrees_self_iff, hasOnlyTexts_iff]
  · intro p n m h
    exact isMatch_eq_of_agrees h p
  · intro p n m hn hm hpn hpm
    exact agrees_of_isMatch hn hm hpn hpm

end Name

namespace Sample

/-- A common name in capitals, as a PrintableString. -/
def inCapitals : Name :=
  ⟨[.singleton ⟨AttributeType.commonName, ⟨.printableString, [0x41, 0x4E, 0x4E]⟩⟩]⟩

/-- The same common name in small letters and with a space, as a UTF8String. -/
def inSmallLetters : Name :=
  ⟨[.singleton ⟨AttributeType.commonName, ⟨.utf8String, [0x61, 0x6E, 0x6E, 0x20]⟩⟩]⟩

/-- A pattern for both. -/
def commonNamePattern : NamePattern := ⟨"/CN=Ann", [(AttributeType.commonName, " ann ")]⟩

end Sample

theorem Name.agrees_isMatch_sample :
    Sample.commonNamePattern.isMatch Sample.inCapitals = true ∧
      Sample.inCapitals.agrees Sample.inSmallLetters = true ∧
      Sample.inSmallLetters.agrees Sample.inCapitals = true ∧
      Sample.inCapitals.agrees Sample.inCapitals = true := by
  obtain ⟨hsymm, htrans, -, -, hagrees⟩ := agrees_isMatch
  have hcapitals : Sample.commonNamePattern.isMatch Sample.inCapitals = true := by decide +kernel
  have hsmall : Sample.commonNamePattern.isMatch Sample.inSmallLetters = true := by decide +kernel
  have hboth : Sample.inCapitals.agrees Sample.inSmallLetters = true :=
    hagrees _ _ _ (by simp [IsSingleValued, Sample.inCapitals, Der.SetOf.singleton])
      (by simp [IsSingleValued, Sample.inSmallLetters, Der.SetOf.singleton]) hcapitals hsmall
  exact ⟨hcapitals, hboth, hsymm _ _ hboth, htrans _ _ _ hboth (hsymm _ _ hboth)⟩

end GridAuthz
