import GridAuthz.Name.AttributeType
import GridAuthz.Proofs.Der.DirectoryStrings
import GridAuthz.Proofs.Der.Order
import GridAuthz.Proofs.Names
import GridAuthz.Proofs.Names.Agreement
import GridAuthz.Proofs.Names.Decoding
import GridAuthz.Proofs.Text.Preparation

/-!
# Relative names as sets

By the rules of certificate path validation the order of the attributes of a relative name does not
count: two of them match when their attributes can be paired (`Name.PairsWith`). Agreement takes the
attributes in the order of their encodings instead, and that depends on the length of the values as
they are written. So agreement is matching for names in which no relative name has two attributes that
differ, and for no others: spaces behind the first of the two make it the last, and the names still
match but do not agree (`Name.agrees_iff_pairsWith`).
-/

namespace GridAuthz

/-! ### Pairs of attributes -/

/-- Two attributes match when they have the same type and values with the same prepared form. -/
def NameAttribute.Matches (a b : NameAttribute) : Prop :=
  a.kind = b.kind ∧ ∃ s t, a.text? = some s ∧ b.text? = some t ∧ Text.prepare s = Text.prepare t

/-- The attributes of one relative name can be put into an order in which each matches that of the
other in the same place. -/
def RelativeName.PairsWith (p q : RelativeName) : Prop :=
  ∃ as : List NameAttribute, as.Perm p.members ∧ List.Forall₂ NameAttribute.Matches as q.members

/-- Two names have the same number of relative names, and place by place their attributes can be
paired. -/
def Name.PairsWith (n m : Name) : Prop := List.Forall₂ RelativeName.PairsWith n.parts m.parts

/-- Two attributes of a relative name do not match. -/
def RelativeName.IsMixed (p : RelativeName) : Prop :=
  ∃ a ∈ p.members, ∃ b ∈ p.members, ¬a.Matches b

namespace NameAttribute

variable {a b c : NameAttribute}

theorem agrees_iff_matches : a.agrees b = true ↔ a.Matches b := agrees_iff

theorem Matches.symm (h : a.Matches b) : b.Matches a :=
  agrees_iff_matches.1 (agrees_symm (agrees_iff_matches.2 h))

theorem Matches.trans (h : a.Matches b) (h' : b.Matches c) : a.Matches c :=
  agrees_iff_matches.1 (agrees_trans (agrees_iff_matches.2 h) (agrees_iff_matches.2 h'))

theorem matches_self (h : a.text?.isSome = true) : a.Matches a := by
  obtain ⟨text, htext⟩ := Option.isSome_iff_exists.1 h
  exact ⟨rfl, text, text, htext, htext, rfl⟩

end NameAttribute

namespace RelativeName

variable {p q : RelativeName}

theorem partsAgree_iff :
    Name.partsAgree p q = true ↔ List.Forall₂ NameAttribute.Matches p.members q.members := by
  simp only [Name.partsAgree, Name.allAgree_iff, NameAttribute.agrees_iff_matches]

theorem pairsWith_of_partsAgree (h : Name.partsAgree p q = true) : PairsWith p q :=
  ⟨p.members, .refl _, partsAgree_iff.1 h⟩

theorem pairsWith_self (h : ∀ a ∈ p.members, a.text?.isSome = true) : PairsWith p p :=
  ⟨p.members, .refl _, List.forall₂_same.2 fun a ha => NameAttribute.matches_self (h a ha)⟩

/-- Attributes that all match one another are in no particular order. -/
theorem partsAgree_of_pairsWith (hmixed : ¬IsMixed p) (h : PairsWith p q) :
    Name.partsAgree p q = true := by
  obtain ⟨as, hperm, has⟩ := h
  have hall : ∀ a ∈ p.members, ∀ b ∈ p.members, a.Matches b := by
    simpa [IsMixed] using hmixed
  rw [partsAgree_iff, List.forall₂_iff_zip]
  refine ⟨hperm.length_eq.symm.trans has.length_eq, fun {a b} hab => ?_⟩
  obtain ⟨ha, hb⟩ := List.of_mem_zip hab
  obtain ⟨c, hc, hcb⟩ : ∃ c ∈ as, c.Matches b := by
    obtain ⟨i, hi, rfl⟩ := List.mem_iff_getElem.1 hb
    have hlt : i < as.length := has.length_eq ▸ hi
    exact ⟨as[i], List.getElem_mem hlt, has.get hlt hi⟩
  exact (hall a ha c (hperm.mem_iff.1 hc)).trans hcb

end RelativeName

/-! ### An attribute put last -/

/-- Putting the first of several attributes last changes what stands in which place, unless they all
match. -/
theorem matches_of_rotate {a b : NameAttribute} {rest : List NameAttribute}
    (h : List.Forall₂ NameAttribute.Matches (a :: rest) (rest ++ [b])) :
    ∀ c ∈ rest, a.Matches c := by
  induction rest generalizing a with
  | nil => simp
  | cons c rest ih =>
    rw [List.cons_append] at h
    cases h with
    | cons hac hrest =>
      rw [List.forall_mem_cons]
      exact ⟨hac, fun d hd => hac.trans (ih hrest d hd)⟩

/-- The attribute with spaces behind its value. -/
def NameAttribute.pad (count : Nat) (a : NameAttribute) : NameAttribute :=
  { a with value := a.value.pad count }

theorem NameAttribute.matches_pad {a : NameAttribute} (count : Nat)
    (h : a.text?.isSome = true) : a.Matches (a.pad count) := by
  obtain ⟨text, htext⟩ := Option.isSome_iff_exists.1 h
  refine ⟨rfl, text, _, htext, Der.Element.directoryText?_pad count htext, ?_⟩
  have hspaces : ∀ w ∈ List.replicate count ' ', Text.isWhitespace w = true := by
    intro w hw
    rw [List.eq_of_mem_replicate hw]
    rfl
  rw [Der.Element.withSpaces, Text.prepare_append_whitespace hspaces, String.ofList_toList]

namespace NameAttribute

open Der

theorem length_content_toElement (a : NameAttribute) :
    a.toElement.content.length = a.kind.toElement.encode.length + a.value.encode.length := by
  simp [toElement, Element.sequence, Element.encodeAll]

theorem length_content_value_le (a : NameAttribute) :
    a.value.content.length + 2 ≤ a.toElement.content.length := by
  have hvalue := Element.length_content_add_two_le a.value
  have hcontent := a.length_content_toElement
  omega

/-- An attribute grows by as much as its value, and a few bytes for the lengths. -/
theorem length_content_pad {a : NameAttribute} {count : Nat}
    (hlen : a.toElement.content.length + count ≤ maxLength) :
    a.value.content.length + count ≤ (a.pad count).toElement.content.length ∧
      (a.pad count).toElement.content.length ≤ a.toElement.content.length + (count + 4) := by
  have hpad : (a.pad count).value.content.length = a.value.content.length + count :=
    Element.length_content_pad count a.value
  have hle := length_content_value_le (a.pad count)
  have hvalue := a.length_content_value_le
  have hgrown := Element.length_encode_le_add (d := (a.pad count).value) (e := a.value) hpad.le
    (by omega)
  have hkind : (a.pad count).kind = a.kind := rfl
  have hcontent := a.length_content_toElement
  have hcontent' := (a.pad count).length_content_toElement
  rw [hkind] at hcontent'
  omega

end NameAttribute

open Der

/-- With as many spaces behind it as the relative name is long, the first attribute comes last. -/
theorem RelativeName.exists_rotated {p : RelativeName} {a : NameAttribute}
    {rest : List NameAttribute} (hp : p.members = a :: rest) {count : Nat}
    (hcount : p.toElement.content.length = count) (hmax : 2 * count + 4 ≤ maxLength) :
    ∃ q : RelativeName, q.members = rest ++ [a.pad count] ∧
      q.toElement.content.length ≤ 2 * count + 8 := by
  have hcontent : a.toElement.encode.length +
      (Element.encodeAll (rest.map NameAttribute.toElement)).length = count := by
    rw [← hcount, SetOf.toElement, hp, List.map_cons, Element.encodeAll_cons, List.length_append]
  have ha := Element.length_content_add_two_le a.toElement
  have hroom : a.toElement.content.length + count ≤ maxLength := by omega
  obtain ⟨hlower, hupper⟩ := NameAttribute.length_content_pad hroom
  have hordered : (rest ++ [a.pad count]).Pairwise fun b c =>
      b.toElement.encode < c.toElement.encode := by
    have hrest := p.ordered
    rw [hp, List.pairwise_cons] at hrest
    rw [List.pairwise_append]
    refine ⟨hrest.2, List.pairwise_singleton _ _, fun b hb c hc => ?_⟩
    rw [List.mem_singleton.1 hc]
    have hmem := Element.length_encode_le_of_mem (List.mem_map_of_mem (f := NameAttribute.toElement) hb)
    have hb' := Element.length_content_add_two_le b.toElement
    exact Element.encode_lt_of_length_lt rfl (by omega) (by omega)
  refine ⟨⟨rest ++ [a.pad count], hordered⟩, rfl, ?_⟩
  have hgrown := Element.length_encode_le_add hupper (by omega)
  rw [SetOf.toElement, List.map_append, Element.encodeAll_append, List.length_append,
    List.map_singleton, Element.encodeAll_singleton]
  omega

/-- A relative name whose attributes do not all match has a counterpart with the same attributes, but
for some spaces, in another order. -/
theorem RelativeName.exists_counterpart {p : RelativeName} (hmixed : IsMixed p)
    (htexts : ∀ a ∈ p.members, a.text?.isSome = true)
    (hmax : 2 * p.toElement.content.length + 4 ≤ maxLength) :
    ∃ q : RelativeName, PairsWith p q ∧ Name.partsAgree p q = false ∧
      (∀ b ∈ q.members, b.text?.isSome = true ∧ ∃ a ∈ p.members, b.kind = a.kind) ∧
      q.toElement.content.length ≤ 2 * p.toElement.content.length + 8 := by
  obtain ⟨b, hb, c, hc, hbc⟩ := hmixed
  obtain ⟨a, rest, hp⟩ := List.exists_cons_of_ne_nil (List.ne_nil_of_mem hb)
  obtain ⟨q, hq, hlength⟩ := exists_rotated hp rfl hmax
  rw [hp, List.forall_mem_cons] at htexts
  obtain ⟨ha, hrest⟩ := htexts
  have hpad := NameAttribute.matches_pad p.toElement.content.length ha
  refine ⟨q, ?_, ?_, ?_, hlength⟩
  · refine ⟨rest ++ [a], ?_, ?_⟩
    · rw [hp]
      exact List.perm_append_singleton a rest
    · rw [hq]
      refine List.rel_append (List.forall₂_same.2 fun d hd => ?_) (.cons hpad .nil)
      exact NameAttribute.matches_self (hrest d hd)
  · rw [Bool.eq_false_iff]
    intro hagree
    rw [partsAgree_iff, hp, hq] at hagree
    have hall : ∀ d ∈ p.members, a.Matches d := by
      rw [hp, List.forall_mem_cons]
      exact ⟨NameAttribute.matches_self ha, matches_of_rotate hagree⟩
    exact hbc ((hall b hb).symm.trans (hall c hc))
  · rw [hq, hp]
    intro d hd
    rcases List.mem_append.1 hd with hd | hd
    · exact ⟨hrest d hd, d, List.mem_cons_of_mem a hd, rfl⟩
    · rw [List.mem_singleton.1 hd]
      obtain ⟨-, s, t, -, ht, -⟩ := hpad
      exact ⟨by rw [ht]; rfl, a, List.mem_cons_self, rfl⟩

/-! ### Names -/

namespace Name

variable {n m : Name}

theorem pairsWith_of_agrees (h : n.agrees m = true) : n.PairsWith m :=
  (agrees_iff.1 h).imp fun _ _ => RelativeName.pairsWith_of_partsAgree

theorem agrees_of_pairsWith (hmixed : ∀ p ∈ n.parts, ¬RelativeName.IsMixed p)
    (h : n.PairsWith m) : n.agrees m = true := by
  rw [agrees_iff]
  rw [PairsWith] at h
  generalize n.parts = ps, m.parts = qs at h hmixed ⊢
  induction h with
  | nil => exact .nil
  | cons hpq _ ih =>
    rw [List.forall_mem_cons] at hmixed
    exact .cons (RelativeName.partsAgree_of_pairsWith hmixed.1 hpq) (ih hmixed.2)

theorem length_content_toElement_append (before after : List RelativeName) (p : RelativeName) :
    (toElement ⟨before ++ p :: after⟩).content.length =
      (Element.encodeAll (before.map SetOf.toElement)).length +
        ((SetOf.toElement p).encode.length +
          (Element.encodeAll (after.map SetOf.toElement)).length) := by
  simp [toElement, Element.sequenceOf, Element.sequence, Element.encodeAll]

/-- Another relative name in the place of one that it pairs with but does not agree with. -/
theorem pairsWith_replace {before after : List RelativeName} {p q : RelativeName}
    (htexts : HasOnlyTexts ⟨before ++ p :: after⟩) (hpair : RelativeName.PairsWith p q) :
    PairsWith ⟨before ++ p :: after⟩ ⟨before ++ q :: after⟩ := by
  have hself : ∀ part ∈ before ++ p :: after, RelativeName.PairsWith part part :=
    fun part hpart => RelativeName.pairsWith_self fun a ha =>
      htexts a (List.mem_flatMap.2 ⟨part, hpart, ha⟩)
  refine List.rel_append (List.forall₂_same.2 fun part hpart => ?_)
    (.cons hpair (List.forall₂_same.2 fun part hpart => ?_))
  · exact hself part (List.mem_append_left _ hpart)
  · exact hself part (List.mem_append_right _ (List.mem_cons_of_mem p hpart))

theorem agrees_replace {before after : List RelativeName} {p q : RelativeName}
    (hpart : partsAgree p q = false) :
    agrees ⟨before ++ p :: after⟩ ⟨before ++ q :: after⟩ = false := by
  rw [Bool.eq_false_iff]
  intro h
  have hdrop := List.forall₂_drop before.length (agrees_iff.1 h)
  rw [List.drop_left, List.drop_left, List.forall₂_cons] at hdrop
  rw [hdrop.1] at hpart
  exact Bool.noConfusion hpart

/-- A name with a relative name whose attributes do not all match has a counterpart that it pairs
with but does not agree with. -/
theorem exists_pairsWith_not_agrees (hread : Oid.AllReadable n.oids) (htexts : n.HasOnlyTexts)
    (hmax : 4 * n.toElement.content.length ≤ maxLength) {p : RelativeName} (hp : p ∈ n.parts)
    (hmixed : RelativeName.IsMixed p) :
    ∃ m : Name, ofDer? m.toElement.encode = some m ∧ m.HasOnlyTexts ∧ n.PairsWith m ∧
      n.agrees m = false := by
  obtain ⟨before, after, hparts⟩ := List.append_of_mem hp
  obtain rfl : n = ⟨before ++ p :: after⟩ := by rw [← hparts]
  have hlength := length_content_toElement_append before after p
  have hcontent := Element.length_content_add_two_le (SetOf.toElement p)
  have hmembers : ∀ a ∈ p.members, a.text?.isSome = true :=
    fun a ha => htexts a (List.mem_flatMap.2 ⟨p, hp, ha⟩)
  have hlimit : maxLength = 0xFFFFFFF := rfl
  obtain ⟨q, hpair, hagree, hq, hqlength⟩ :=
    RelativeName.exists_counterpart hmixed hmembers (by omega)
  refine ⟨⟨before ++ q :: after⟩, ?_, ?_, pairsWith_replace htexts hpair, agrees_replace hagree⟩
  · have hlength' := length_content_toElement_append before after q
    have hqlength' := Element.length_encode_le (e := SetOf.toElement q) (by omega)
    have hcontent' : (toElement ⟨before ++ q :: after⟩).content.length ≤ maxLength := by omega
    refine ofDer?_encode_toElement ?_ hcontent'
    simp only [oids, Oid.allReadable_flatMap, NameAttribute.oids, Oid.allReadable_cons,
      Oid.allReadable_nil, and_true, List.forall_mem_append, List.forall_mem_cons] at hread ⊢
    refine ⟨hread.1, fun b hb => ?_, hread.2.2⟩
    obtain ⟨-, a, ha, hkind⟩ := hq b hb
    rw [hkind]
    exact hread.2.1 a ha
  · simp only [HasOnlyTexts, attributes, List.flatMap_append, List.flatMap_cons,
      List.forall_mem_append] at htexts ⊢
    exact ⟨htexts.1, fun b hb => (hq b hb).1, htexts.2.2⟩

/-- Names that agree match as lists of sets of attributes. For a name in which no relative name has two
attributes that do not match, the converse holds too; for every other name there is one that it matches
but does not agree with, unless it is so long that there is no room for the spaces that make the
difference. -/
theorem agrees_iff_pairsWith {bytes : Bytes} (h : ofDer? bytes = some n) (htexts : n.HasOnlyTexts) :
    (∀ m : Name, n.agrees m = true → n.PairsWith m) ∧
    ((∀ p ∈ n.parts, ¬RelativeName.IsMixed p) →
      ∀ m : Name, n.PairsWith m → n.agrees m = true) ∧
    ((∃ p ∈ n.parts, RelativeName.IsMixed p) → 4 * bytes.length ≤ maxLength →
      ∃ (bytes' : Bytes) (m : Name), ofDer? bytes' = some m ∧ m.HasOnlyTexts ∧
        n.PairsWith m ∧ n.agrees m = false) := by
  refine ⟨fun m => pairsWith_of_agrees, fun hmixed m => agrees_of_pairsWith hmixed, ?_⟩
  rintro ⟨p, hp, hmixed⟩ hmax
  have hcontent := Element.length_content_le n.toElement
  rw [length_encode_of_ofDer? h] at hcontent
  obtain ⟨m, hm⟩ := exists_pairsWith_not_agrees (allReadable_of_ofDer? h) htexts (by omega) hp hmixed
  exact ⟨m.toElement.encode, m, hm⟩

end Name

namespace Sample

/-- A common name. -/
def person : NameAttribute := ⟨AttributeType.commonName, .ofUtf8 "ann"⟩

/-- A mail address. -/
def mail : NameAttribute := ⟨AttributeType.emailAddress, .ofUtf8 "ann@example.org"⟩

/-- A relative name with two attributes. -/
def personWithMail : RelativeName := ⟨[person, mail], by decide +kernel⟩

end Sample

theorem Name.agrees_iff_pairsWith_sample :
    ofDer? (toElement ⟨[Sample.personWithMail]⟩).encode = some ⟨[Sample.personWithMail]⟩ ∧
      ∃ (bytes : Bytes) (m : Name), ofDer? bytes = some m ∧ m.HasOnlyTexts ∧
        PairsWith ⟨[Sample.personWithMail]⟩ m ∧ agrees ⟨[Sample.personWithMail]⟩ m = false := by
  have hread : ofDer? (toElement ⟨[Sample.personWithMail]⟩).encode =
      some ⟨[Sample.personWithMail]⟩ :=
    ofDer?_encode_toElement (by decide +kernel) (by decide +kernel)
  have htexts : HasOnlyTexts ⟨[Sample.personWithMail]⟩ := by decide +kernel
  have hmixed : RelativeName.IsMixed Sample.personWithMail := by
    refine ⟨Sample.person, List.mem_cons_self, Sample.mail, ?_, ?_⟩
    · exact List.mem_cons_of_mem _ List.mem_cons_self
    · intro h
      exact absurd h.1 (by decide)
  obtain ⟨-, -, hfail⟩ := agrees_iff_pairsWith hread htexts
  exact ⟨hread, hfail ⟨_, List.mem_singleton_self _, hmixed⟩ (by decide +kernel)⟩

end GridAuthz
