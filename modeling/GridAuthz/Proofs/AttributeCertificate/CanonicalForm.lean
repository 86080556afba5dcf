import GridAuthz.AttributeCertificate
import GridAuthz.Proofs.Der.Forms
import GridAuthz.Proofs.Der.PrimitiveForms

/-!
# Canonical forms

Which elements of an attribute certificate are written as they were read, type by type. There are
three ways in which another form is read: values of a set in another order, a field that is given
more than once, and an extension which says that it is not critical. Everything else has one form
(`AttributeCertificate.writesBackOn`).
-/

namespace GridAuthz

open Der

/-! ### Parts with one form -/

theorem NameAttribute.toElement_of_ofElement? {e : Element} {a : NameAttribute}
    (h : ofElement? e = some a) : a.toElement = e := by
  simp only [ofElement?, Option.bind_eq_bind, Option.bind_eq_some_iff, Option.pure_def] at h
  obtain ⟨fields, hfields, h⟩ := h
  split at h
  case h_1 kind value =>
    simp only [Option.bind_eq_some_iff, Option.some.injEq] at h
    obtain ⟨id, hid, rfl⟩ := h
    rw [toElement, Oid.toElement_of_ofElement? hid, Element.eq_sequence_of_sequence? hfields]
  case h_2 => simp at h

theorem AlgorithmIdentifier.toElement_of_ofElement? {e : Element} {a : AlgorithmIdentifier}
    (h : ofElement? e = some a) : a.toElement = e := by
  simp only [ofElement?, Option.bind_eq_bind, Option.bind_eq_some_iff, Option.pure_def] at h
  obtain ⟨fields, hfields, h⟩ := h
  split at h
  case h_1 =>
    simp only [Option.bind_eq_some_iff, Option.some.injEq] at h
    obtain ⟨id, hid, rfl⟩ := h
    rw [toElement, Oid.toElement_of_ofElement? hid, Element.eq_sequence_of_sequence? hfields]
    rfl
  case h_2 =>
    simp only [Option.bind_eq_some_iff, Option.some.injEq] at h
    obtain ⟨id, hid, rfl⟩ := h
    rw [toElement, Oid.toElement_of_ofElement? hid, Element.eq_sequence_of_sequence? hfields]
    rfl
  case h_3 => simp at h

theorem DirectoryString.element_of_ofElement? {e : Element} {s : DirectoryString}
    (h : ofElement? e = some s) : s.element = e := by
  rw [ofElement?, Option.dite_none_right_eq_some] at h
  obtain ⟨_, h⟩ := h
  cases h
  rfl

theorem AcValidity.toElement_of_ofElement? {e : Element} {v : AcValidity}
    (h : ofElement? e = some v) : v.toElement = e := by
  simp only [ofElement?, Option.bind_eq_bind, Option.bind_eq_some_iff, Option.pure_def] at h
  obtain ⟨fields, hfields, h⟩ := h
  split at h
  case h_1 =>
    simp only [Option.bind_eq_some_iff, Option.some.injEq] at h
    obtain ⟨notBefore, hbefore, notAfter, hafter, rfl⟩ := h
    rw [toElement, generalizedTime_of_generalizedTime? hbefore,
      generalizedTime_of_generalizedTime? hafter, Element.eq_sequence_of_sequence? hfields]
  case h_2 => simp at h

/-! ### Names -/

/-- The attributes of every relative name are in order. -/
def Name.IsCanonical (e : Element) : Prop :=
  e.HasFields fun parts => ∀ part ∈ parts, part.IsOrdered

instance : DecidablePred Name.IsCanonical := fun e =>
  inferInstanceAs (Decidable (e.HasFields _))

theorem Name.writesBackOn : WritesBackOn Name.ofElement? Name.toElement Name.IsCanonical := by
  intro e name he h
  obtain ⟨parts, hparts, rfl⟩ := Option.map_eq_some_iff.1 h
  have hpart : WritesBackOn (SetOf.ofElement? NameAttribute.ofElement?) SetOf.toElement
      Element.IsOrdered := fun part attributes hlength hattributes =>
    SetOf.toElement_eq_iff hlength (fun _ _ => NameAttribute.toElement_of_ofElement?) hattributes
  exact hpart.sequenceOf e parts he hparts

namespace GeneralName

/-- A distinguished name is canonical, and what a party is called by is given once. -/
def IsCanonical (e : Element) : Prop :=
  (e.tag = .contextConstructed 4 → ∀ name ∈ e.explicit?, Name.IsCanonical name) ∧
    (e.tag = .contextConstructed 5 → (e.retag .sequence).HasFields HasDistinctNumbers)

instance : DecidablePred IsCanonical := fun _ =>
  inferInstanceAs (Decidable (_ ∧ _))

/-- Each name of a list is canonical. -/
def ListIsCanonical (e : Element) : Prop := e.HasFields fun names => ∀ n ∈ names, IsCanonical n

instance : DecidablePred ListIsCanonical := fun e =>
  inferInstanceAs (Decidable (e.HasFields _))

/-- An identifier with its value has one form. -/
theorem toElement_of_otherOfElement? {e : Element} {n : GeneralName}
    (h : otherOfElement? (e.retag .sequence) = some n) (htag : e.tag = .contextConstructed 0) :
    n.toElement = e := by
  simp only [otherOfElement?, Option.bind_eq_bind, Option.bind_eq_some_iff, Option.pure_def] at h
  obtain ⟨fields, hfields, h⟩ := h
  split at h
  case h_1 => simp at h
  case h_2 type rest =>
    simp only [Option.bind_eq_some_iff, takeExplicit?] at h
    obtain ⟨⟨value, rest⟩, hvalue, h⟩ := h
    split at h
    case h_1 value heq =>
      cases heq
      simp only [Option.bind_eq_some_iff, Option.some.injEq] at h
      obtain ⟨id, hid, rfl⟩ := h
      obtain ⟨f, rfl, hrel, -⟩ := takeContext?_zero hvalue
      cases hrel with
      | some hf =>
        obtain ⟨d, hd, hsome⟩ := Option.bind_eq_some_iff.1 hf.2
        cases hsome
        rw [toElement, Element.retag_eq_iff .sequence rfl htag,
          Element.eq_sequence_of_sequence? hfields, Oid.toElement_of_ofElement? hid,
          Element.eq_explicit_of_explicit? hf.1 hd]
        rfl
    case h_2 => simp at h

theorem explicit_of_explicit? (n : Nat) (f : Element) (s : DirectoryString)
    (h : f.tag.contextNumber? = some n ∧ f.explicit?.bind DirectoryString.ofElement? = some s) :
    s.element.explicit n = f := by
  obtain ⟨d, hd, hs⟩ := Option.bind_eq_some_iff.1 h.2
  rw [DirectoryString.element_of_ofElement? hs, Element.eq_explicit_of_explicit? h.1 hd]

/-- What a party is called by has one form, unless it is given twice. -/
theorem toElement_eq_iff_of_ediPartyOfElement? {e : Element} {n : GeneralName}
    (he : e.content.length ≤ maxLength)
    (h : ediPartyOfElement? (e.retag .sequence) = some n) (htag : e.tag = .contextConstructed 5) :
    n.toElement = e ↔ (e.retag .sequence).HasFields HasDistinctNumbers := by
  simp only [ediPartyOfElement?, Option.bind_eq_bind, Option.bind_eq_some_iff, Option.pure_def,
    takeExplicit?] at h
  obtain ⟨fields, hfields, ⟨assigner, rest⟩, hassigner, ⟨party, last⟩, hparty, h⟩ := h
  split at h
  case h_1 party heq =>
    cases heq
    cases h
    obtain ⟨f, skipped, f₁, rfl, hrel, hrel₁, hdistinct⟩ := takeContext?_zero_one hassigner hparty
    rw [toElement, Element.retag_eq_iff .sequence rfl htag,
      Element.sequence_eq_iff (e := e.retag .sequence) he hfields, Element.hasFields_iff hfields,
      hdistinct, map_eq_of_rel hrel (explicit_of_explicit? 0)]
    cases hrel₁ with
    | some hf₁ =>
      rw [explicit_of_explicit? 1 _ _ hf₁]
      simp
  case h_2 => simp at h

/-- A text under a tag of its own has one form. -/
theorem ascii_of_retag {e : Element} {s : AsciiText} {tag : Tag} (htag : e.tag = tag)
    (h : AsciiText.ofElement? (e.retag .ia5String) = some s) : s.toElement.retag tag = e := by
  rw [Element.retag_eq_iff .ia5String rfl htag, AsciiText.toElement_of_ofElement? h]

theorem writesBackOn : WritesBackOn ofElement? toElement IsCanonical := by
  intro e n he h
  rw [ofElement?] at h
  -- Only the names under the tags 4 and 5 have more than one form.
  have hexact {n : GeneralName} (h4 : e.tag ≠ .contextConstructed 4)
      (h5 : e.tag ≠ .contextConstructed 5) (heq : n.toElement = e) :
      n.toElement = e ↔ IsCanonical e :=
    iff_of_true heq ⟨fun h => absurd h h4, fun h => absurd h h5⟩
  split_ifs at h with h0 h1 h2 h4 h5 h6 h7 h8
  · exact hexact (by simp [h0]; decide) (by simp [h0]; decide) (toElement_of_otherOfElement? h h0)
  · obtain ⟨s, hs, rfl⟩ := Option.map_eq_some_iff.1 h
    exact hexact (by simp [h1]; decide) (by simp [h1]; decide) (ascii_of_retag h1 hs)
  · obtain ⟨s, hs, rfl⟩ := Option.map_eq_some_iff.1 h
    exact hexact (by simp [h2]; decide) (by simp [h2]; decide) (ascii_of_retag h2 hs)
  · obtain ⟨name, hname, rfl⟩ := Option.map_eq_some_iff.1 h
    obtain ⟨d, hd, hname⟩ := Option.bind_eq_some_iff.1 hname
    have hnumber : e.tag.contextNumber? = some 4 := by rw [h4]; rfl
    have hlength := Element.length_content_le_of_explicit? he hd
    rw [toElement, Element.explicit_eq_iff hnumber hd, Name.writesBackOn d name hlength hname]
    simp [IsCanonical, h4, hd, show Tag.contextConstructed 4 ≠ .contextConstructed 5 by decide]
  · rw [toElement_eq_iff_of_ediPartyOfElement? he h h5]
    simp [IsCanonical, h5, show Tag.contextConstructed 5 ≠ .contextConstructed 4 by decide]
  · obtain ⟨s, hs, rfl⟩ := Option.map_eq_some_iff.1 h
    exact hexact h4 h5 (ascii_of_retag h6 hs)
  · cases h
    refine hexact h4 h5 ?_
    rw [toElement, Element.retag_eq_iff .octetString rfl h7]
    rfl
  · obtain ⟨id, hid, rfl⟩ := Option.map_eq_some_iff.1 h
    refine hexact h4 h5 ?_
    rw [toElement, Element.retag_eq_iff .objectIdentifier rfl h8,
      Oid.toElement_of_ofElement? hid]

theorem list_writesBackOn : WritesBackOn list? listElement ListIsCanonical :=
  writesBackOn.sequenceOf

end GeneralName

/-! ### Holder and issuer -/

namespace IssuerSerial

/-- The names of the issuer are canonical. -/
def IsCanonical (e : Element) : Prop :=
  e.HasFields fun fields => ∀ issuer ∈ fields.head?, GeneralName.ListIsCanonical issuer

instance : DecidablePred IsCanonical := fun e =>
  inferInstanceAs (Decidable (e.HasFields _))

theorem writesBackOn : WritesBackOn ofElement? toElement IsCanonical := by
  intro e r he h
  simp only [ofElement?, Option.bind_eq_bind, Option.bind_eq_some_iff, Option.pure_def] at h
  obtain ⟨fields, hfields, h⟩ := h
  split at h
  case h_1 issuer serial rest =>
    simp only [Option.bind_eq_some_iff, Prod.exists, Option.ite_none_right_eq_some,
      List.isEmpty_iff, Option.some.injEq] at h
    obtain ⟨uid, _, huid, rfl, names, hnames, number, hnumber, rfl⟩ := h
    obtain ⟨f, rfl, hrel⟩ := takeTagged?_eq_some huid
    have hissuer := Element.length_content_le_of_fieldsOf? he hfields issuer (by simp)
    rw [toElement, Element.sequence_eq_iff he hfields, IsCanonical, Element.hasFields_iff hfields,
      SerialNumber.toElement_of_ofElement? hnumber,
      map_eq_of_rel hrel fun _ _ h => BitString.toElement_of_ofElement? h.2]
    simpa using GeneralName.list_writesBackOn issuer names hissuer hnames
  case h_2 => simp at h

end IssuerSerial

namespace Holder

/-- The certificate and the names are given once and are canonical. -/
def IsCanonical (e : Element) : Prop :=
  e.HasFields fun fields => HasDistinctNumbers fields ∧ ∀ f ∈ fields,
    (f.tag = .contextConstructed 0 → IssuerSerial.IsCanonical (f.retag .sequence)) ∧
    (f.tag = .contextConstructed 1 → GeneralName.ListIsCanonical (f.retag .sequence))

instance : DecidablePred IsCanonical := fun e =>
  inferInstanceAs (Decidable (e.HasFields _))

theorem writesBackOn : WritesBackOn ofElement? toElement IsCanonical := by
  intro e holder he h
  simp only [ofElement?, takeImplicit?, Option.bind_eq_bind, Option.bind_eq_some_iff, Prod.exists,
    Option.pure_def, Option.ite_none_right_eq_some, List.isEmpty_iff, Option.some.injEq] at h
  obtain ⟨fields, hfields, certificate, rest, hcertificate, names, _, hnames, rfl, rfl⟩ := h
  obtain ⟨f, skipped, f₁, rfl, hrel, hrel₁, hdistinct⟩ := takeContext?_zero_one hcertificate hnames
  have hlength := Element.length_content_le_of_fieldsOf? he hfields
  obtain ⟨htag, hcertificate⟩ := IssuerSerial.writesBackOn.implicit .sequence rfl
    (fun _ => rfl) (fun g hg => hlength g (by simp [Option.mem_def.1 hg])) hrel
  obtain ⟨htag₁, hnames⟩ := GeneralName.list_writesBackOn.implicit .sequence rfl
    (fun _ => rfl) (fun g hg => hlength g (by simp [Option.mem_def.1 hg])) hrel₁
  rw [toElement, Element.sequence_eq_iff he hfields, IsCanonical, Element.hasFields_iff hfields,
    hdistinct, toList_append_toList_eq_iff hrel hrel₁, hcertificate, hnames]
  refine and_congr_right ?_
  rintro rfl
  have hne : Tag.contextConstructed 0 ≠ .contextConstructed 1 := by decide
  cases f <;> cases f₁ <;> simp_all [hne.symm]

end Holder

namespace AcIssuer

/-- The names and, in the form of the second version, the certificate are canonical. -/
def IsCanonical (e : Element) : Prop :=
  if e.tag = .contextConstructed 0 then
    (e.retag .sequence).HasFields fun fields => ∀ f ∈ fields,
      (f.tag = .sequence → GeneralName.ListIsCanonical f) ∧
      (f.tag = .contextConstructed 0 → IssuerSerial.IsCanonical (f.retag .sequence))
  else GeneralName.ListIsCanonical e

instance : DecidablePred IsCanonical := fun _ =>
  inferInstanceAs (Decidable (ite _ _ _))

theorem writesBackOn : WritesBackOn ofElement? toElement IsCanonical := by
  intro e issuer he h
  rw [ofElement?] at h
  rw [IsCanonical]
  split_ifs at h ⊢ with htag
  · simp only [v2OfElement?, takeImplicit?, Option.bind_eq_bind, Option.bind_eq_some_iff,
      Prod.exists, Option.pure_def, Option.ite_none_right_eq_some, List.isEmpty_iff,
      Option.some.injEq] at h
    obtain ⟨fields, hfields, names, rest, hnames, certificate, _, hcertificate, rfl, rfl⟩ := h
    obtain ⟨f, rfl, hrel⟩ := takeTagged?_eq_some hnames
    obtain ⟨f₁, rfl, hrel₁, -⟩ := takeContext?_zero hcertificate
    have hlength := Element.length_content_le_of_fieldsOf? (e := e.retag .sequence) he hfields
    obtain ⟨htag₀, hnames⟩ := GeneralName.list_writesBackOn.tagged
      (fun g hg => hlength g (by simp [Option.mem_def.1 hg])) hrel
    obtain ⟨htag₁, hcertificate⟩ := IssuerSerial.writesBackOn.implicit .sequence rfl
      (fun _ => rfl) (fun g hg => hlength g (by simp [Option.mem_def.1 hg])) hrel₁
    have hwrite := toList_append_toList_eq_iff hrel hrel₁ [] GeneralName.listElement
      fun r => r.toElement.retag (.contextConstructed 0)
    rw [toElement, Element.retag_eq_iff .sequence rfl htag,
      Element.sequence_eq_iff (e := e.retag .sequence) he hfields, Element.hasFields_iff hfields,
      List.append_nil, ← List.nil_append f₁.toList, hwrite, hnames, hcertificate]
    have hne : Tag.contextConstructed 0 ≠ .sequence := by decide
    cases f <;> cases f₁ <;> simp_all [hne.symm]
  · obtain ⟨names, hnames, rfl⟩ := Option.map_eq_some_iff.1 h
    exact GeneralName.list_writesBackOn e names he hnames

end AcIssuer

/-! ### Attributes and extensions -/

namespace AcAttribute

/-- The values are in order. -/
def IsCanonical (e : Element) : Prop :=
  e.HasFields fun fields => ∀ values ∈ fields[1]?, values.IsOrdered

instance : DecidablePred IsCanonical := fun e =>
  inferInstanceAs (Decidable (e.HasFields _))

theorem writesBackOn : WritesBackOn ofElement? toElement IsCanonical := by
  intro e a he h
  simp only [ofElement?, Option.bind_eq_bind, Option.bind_eq_some_iff, Option.pure_def] at h
  obtain ⟨fields, hfields, h⟩ := h
  split at h
  case h_1 kind values =>
    simp only [Option.bind_eq_some_iff, Option.some.injEq] at h
    obtain ⟨id, hid, set, hset, rfl⟩ := h
    have hvalues := Element.length_content_le_of_fieldsOf? he hfields values (by simp)
    have hordered : SetOf.toElement (α := Element) set = values ↔ values.IsOrdered :=
      SetOf.toElement_eq_iff hvalues (by simp) hset
    rw [toElement, Element.sequence_eq_iff he hfields, IsCanonical, Element.hasFields_iff hfields,
      Oid.toElement_of_ofElement? hid]
    simpa using hordered
  case h_2 => simp at h

end AcAttribute

namespace Extension

/-- That the extension is not critical is left out. -/
def IsCanonical (e : Element) : Prop := e.HasFields fun fields => Element.ofBool false ∉ fields

instance : DecidablePred IsCanonical := fun e =>
  inferInstanceAs (Decidable (e.HasFields _))

theorem writesBackOn : WritesBackOn ofElement? toElement IsCanonical := by
  intro e x he h
  simp only [ofElement?, Option.bind_eq_bind, Option.bind_eq_some_iff, Option.pure_def] at h
  obtain ⟨fields, hfields, h⟩ := h
  split at h
  case h_1 => simp at h
  case h_2 id rest =>
    simp only [Option.bind_eq_some_iff, Prod.exists] at h
    obtain ⟨critical, rest, hcritical, h⟩ := h
    split at h
    case h_1 value =>
      simp only [Option.bind_eq_some_iff, Option.some.injEq] at h
      obtain ⟨oid, hoid, octets, hoctets, rfl⟩ := h
      obtain ⟨f, rfl, hrel⟩ := takeTagged?_eq_some hcritical
      have hid := Oid.toElement_of_ofElement? hoid
      have hvalue := Element.ofOctets_of_octets? hoctets
      -- neither the identifier nor the value can be mistaken for a truth value
      have hne : Element.ofBool false ≠ id := fun heq =>
        absurd (congrArg Element.tag (heq.trans hid.symm))
          (show Tag.boolean ≠ .objectIdentifier by decide)
      have hne₁ : Element.ofBool false ≠ value := fun heq =>
        absurd (congrArg Element.tag (heq.trans hvalue.symm))
          (show Tag.boolean ≠ .octetString by decide)
      have htrue : Element.ofBool false ≠ .ofBool true := by decide
      rw [toElement, Element.sequence_eq_iff he hfields, IsCanonical, Element.hasFields_iff hfields,
        hid, hvalue]
      cases hrel with
      | none => simp [hne, hne₁]
      | @some g b hg =>
        obtain rfl := Element.ofBool_of_bool? hg.2
        cases b <;> simp [hne, hne₁, htrue]
    case h_2 => simp at h

end Extension

/-! ### The certificate -/

namespace AcBody

/-- The holder, the issuer, the attributes and the extensions are canonical. -/
def IsCanonical (e : Element) : Prop :=
  e.HasFields fun fields =>
    (∀ holder ∈ fields[1]?, Holder.IsCanonical holder) ∧
    (∀ issuer ∈ fields[2]?, AcIssuer.IsCanonical issuer) ∧
    (∀ attributes ∈ fields[6]?,
      attributes.HasFields fun as => ∀ a ∈ as, AcAttribute.IsCanonical a) ∧
    ∀ extensions ∈ fields.drop 7, extensions.tag = .sequence →
      extensions.HasFields fun xs => ∀ x ∈ xs, Extension.IsCanonical x

instance : DecidablePred IsCanonical := fun e =>
  inferInstanceAs (Decidable (e.HasFields _))

theorem writesBackOn : WritesBackOn ofElement? toElement IsCanonical := by
  intro e b he h
  simp only [ofElement?, Option.bind_eq_bind, Option.bind_eq_some_iff, Option.pure_def] at h
  obtain ⟨fields, hfields, h⟩ := h
  split at h
  case h_1 version holder issuer signature serialNumber validity attributes fields =>
    simp only [Option.bind_eq_some_iff, Prod.exists, Option.ite_none_right_eq_some,
      List.isEmpty_iff, Option.some.injEq] at h
    obtain ⟨uid, rest, huid, extensions, _, hextensions, rfl, v, hv, ho, hholder, is, hissuer,
      sig, hsignature, serial, hserial, times, htimes, attrs, hattributes, rfl⟩ := h
    obtain ⟨f, rfl, hrel⟩ := takeTagged?_eq_some huid
    obtain ⟨f₁, rfl, hrel₁⟩ := takeTagged?_eq_some hextensions
    have hlength := Element.length_content_le_of_fieldsOf? he hfields
    obtain ⟨hlt, hversion⟩ := Element.ofNat_of_natBelow? hv
    have huid := map_eq_of_rel hrel fun _ _ h => BitString.toElement_of_ofElement? h.2
    obtain ⟨htag, hextensions⟩ := Extension.writesBackOn.sequenceOf.tagged
      (fun g hg => hlength g (by simp [Option.mem_def.1 hg])) hrel₁
    have hwrite := toList_append_toList_eq_iff hrel hrel₁ [] BitString.toElement
      (.sequenceOf Extension.toElement)
    rw [huid, hextensions, List.nil_append] at hwrite
    rw [toElement, Element.sequence_eq_iff he hfields, IsCanonical, Element.hasFields_iff hfields]
    simp only [UInt8.toNat_ofNat', Nat.mod_eq_of_lt hlt, hversion, huid,
      AlgorithmIdentifier.toElement_of_ofElement? hsignature,
      SerialNumber.toElement_of_ofElement? hserial, AcValidity.toElement_of_ofElement? htimes,
      Holder.writesBackOn holder ho (hlength holder (by simp)) hholder,
      AcIssuer.writesBackOn issuer is (hlength issuer (by simp)) hissuer,
      AcAttribute.writesBackOn.sequenceOf attributes attrs (hlength attributes (by simp))
        hattributes,
      List.cons_append, List.nil_append, List.append_nil, List.cons.injEq, true_and, hwrite]
    have hne : Tag.bitString ≠ .sequence := by decide
    cases hrel <;> cases f₁ <;> simp_all
  case h_2 => simp at h

end AcBody

namespace AttributeCertificate

/-- The signed part is canonical. -/
def IsCanonical (e : Element) : Prop :=
  e.HasFields fun fields => ∀ body ∈ fields.head?, AcBody.IsCanonical body

instance : DecidablePred IsCanonical := fun e =>
  inferInstanceAs (Decidable (e.HasFields _))

/-- Besides its signed part a certificate has two fields, each of which has one form. -/
theorem exists_fields_of_ofElement? {e : Element} {c : AttributeCertificate}
    (h : ofElement? e = some c) : ∃ body algorithm signature : Element,
      e.sequence? = some [body, algorithm, signature] ∧ AcBody.ofElement? body = some c.body ∧
      algorithm = c.signatureAlgorithm.toElement ∧ signature = c.signature.toElement := by
  simp only [ofElement?, Option.bind_eq_bind, Option.bind_eq_some_iff, Option.pure_def] at h
  obtain ⟨fields, hfields, h⟩ := h
  split at h
  case h_1 body algorithm signature =>
    simp only [Option.bind_eq_some_iff, Option.some.injEq] at h
    obtain ⟨b, hb, a, ha, s, hs, rfl⟩ := h
    exact ⟨body, algorithm, signature, hfields, hb,
      (AlgorithmIdentifier.toElement_of_ofElement? ha).symm,
      (BitString.toElement_of_ofElement? hs).symm⟩
  case h_2 => simp at h

theorem writesBackOn : WritesBackOn ofElement? toElement IsCanonical := by
  intro e c he h
  obtain ⟨body, _, _, hfields, hbody, rfl, rfl⟩ := exists_fields_of_ofElement? h
  have hlength := Element.length_content_le_of_fieldsOf? he hfields body (by simp)
  rw [toElement, Element.sequence_eq_iff he hfields, IsCanonical, Element.hasFields_iff hfields]
  simpa using AcBody.writesBackOn body c.body hlength hbody

end AttributeCertificate

end GridAuthz
