import GridAuthz.AttributeCertificate.Values
import GridAuthz.Name.AttributeType
import GridAuthz.Proofs.Names.ReadBack
import GridAuthz.Signature

/-!
# Attribute certificates read back

An attribute certificate, and each kind of value that it holds, is read back from its encoding if all
its object identifiers can be read, and otherwise it is not read at all. Optional fields are kept apart
by their tags; what an issuer of the second version starts with is never the tag of a list of names,
as which one of the first version is written.
-/

namespace GridAuthz

open Der

/-! ### Holder and issuer -/

/-- The identifiers in the names of the issuer. -/
def IssuerSerial.oids (r : IssuerSerial) : List Oid := r.issuer.flatMap (·.oids)

theorem IssuerSerial.readsBackOn :
    ReadsBackOn ofElement? toElement fun r => Oid.AllReadable r.oids := by
  rintro ⟨issuer, serial, uid⟩ hlen y
  have hfields := length_content_le_of_sequence hlen
  have hissuer := GeneralName.listReadsBackOn issuer (hfields _ (by simp))
  have huid := BitString.readsBackOn.takeTagged_last .bitString (fun _ => rfl)
    (fun f hf => hfields f (List.mem_append_right _ hf))
  rw [ofElement?, toElement, Element.sequence?_sequence hlen]
  simp [oids, Option.bind_eq_some_iff, hissuer, huid]

/-- The identifiers in the names of the holder and in those of the issuer of its certificate. -/
def Holder.oids (h : Holder) : List Oid :=
  h.certificate.toList.flatMap (·.oids) ++ h.names.toList.flatMap fun ns => ns.flatMap (·.oids)

theorem Holder.readsBackOn : ReadsBackOn ofElement? toElement fun h => Oid.AllReadable h.oids := by
  rintro ⟨certificate, names⟩ hlen y
  have hfields := length_content_le_of_sequence hlen
  have hcertificate := (IssuerSerial.readsBackOn.implicitSequence 0 fun _ => rfl).takeContext 0
    (by simp) hfields (by cases names <;> simp)
  have hnames := (GeneralName.listReadsBackOn.implicitSequence 1 fun _ => rfl).takeContext_last 1
    (by simp) (fun f hf => hfields f (List.mem_append_right _ hf))
  rw [ofElement?, toElement, Element.sequence?_sequence hlen]
  simp [oids, takeImplicit?, Option.bind_eq_some_iff, hcertificate, hnames, and_assoc]

namespace AcIssuer

/-- The identifiers in the names of the authority and in those of the issuer of its certificate. -/
def oids : AcIssuer → List Oid
  | v1 names => names.flatMap (·.oids)
  | v2 names certificate =>
    names.toList.flatMap (fun ns => ns.flatMap (·.oids)) ++ certificate.toList.flatMap (·.oids)

theorem readsBackOn : ReadsBackOn ofElement? toElement fun i => Oid.AllReadable i.oids := by
  intro issuer hlen y
  cases issuer with
  | v1 names =>
    have hread : ofElement? (v1 names).toElement =
        (GeneralName.list? (GeneralName.listElement names)).map v1 := rfl
    simp [hread, GeneralName.listReadsBackOn names hlen, oids]
  | v2 names certificate =>
    have hread : ofElement? (v2 names certificate).toElement =
        v2OfElement? (.sequence ((names.map GeneralName.listElement).toList ++
          (certificate.map fun r => r.toElement.retag (.contextConstructed 0)).toList)) := rfl
    have hfields := length_content_le_of_retag hlen
    have hnames := GeneralName.listReadsBackOn.takeTagged .sequence (fun _ => rfl) hfields
      (by cases certificate <;> simp; decide)
    have hcertificate := (IssuerSerial.readsBackOn.implicitSequence 0 fun _ => rfl).takeContext_last
      0 (by simp) (fun f hf => hfields f (List.mem_append_right _ hf))
    rw [hread, v2OfElement?, Element.sequence?_sequence hlen]
    simp [oids, takeImplicit?, Option.bind_eq_some_iff, hnames, hcertificate, and_assoc]

end AcIssuer

/-! ### Validity and attributes -/

theorem AcValidity.ofElement?_toElement {v : AcValidity}
    (hlen : v.toElement.content.length ≤ maxLength) : ofElement? v.toElement = some v := by
  rw [ofElement?, toElement, Element.sequence?_sequence hlen]
  simp

/-- The type of the attribute; its values are not looked into. -/
def AcAttribute.oids (a : AcAttribute) : List Oid := [a.kind]

theorem AcAttribute.readsBackOn :
    ReadsBackOn ofElement? toElement fun a => Oid.AllReadable a.oids := by
  rintro ⟨kind, values⟩ hlen y
  have hfields := length_content_le_of_sequence hlen
  have hkind := Oid.readsBackOn kind (hfields _ (by simp))
  have hany : ReadsBackOn some id fun _ : Element => True := by simp [ReadsBackOn]
  have hvalues := hany.setOf values (hfields _ (by simp))
  rw [ofElement?, toElement, Element.sequence?_sequence hlen]
  simp [oids, Option.bind_eq_some_iff, hkind, hvalues]

/-! ### Attribute certificates -/

namespace AcBody

/-- The identifiers in a body, but for those inside parameters and values, in the order in which they
are read: the extensions come first. -/
def oids (b : AcBody) : List Oid :=
  b.extensions.toList.flatMap (fun xs => xs.flatMap (·.oids)) ++ b.holder.oids ++ b.issuer.oids ++
    b.signature.oids ++ b.attributes.flatMap (·.oids)

theorem readsBackOn : ReadsBackOn ofElement? toElement fun b => Oid.AllReadable b.oids := by
  rintro ⟨version, holder, issuer, signature, serialNumber, validity, attributes, issuerUniqueId,
    extensions⟩ hlen y
  have hfields := length_content_le_of_sequence hlen
  simp only [List.append_assoc] at hfields
  have hversion := Element.natBelow?_ofNat version.toNat_lt
  have hholder := Holder.readsBackOn holder (hfields _ (by simp))
  have hissuer := AcIssuer.readsBackOn issuer (hfields _ (by simp))
  have hsignature := AlgorithmIdentifier.readsBackOn signature (hfields _ (by simp))
  have hvalidity := AcValidity.ofElement?_toElement (v := validity) (hfields _ (by simp))
  have hattributes := AcAttribute.readsBackOn.sequenceOf attributes (hfields _ (by simp))
  have hoptional : ∀ f ∈ (issuerUniqueId.map BitString.toElement).toList ++
      (extensions.map (Element.sequenceOf Extension.toElement)).toList,
      f.content.length ≤ maxLength := fun f hf => hfields f (List.mem_append_right _ hf)
  have htakeIssuerId := BitString.readsBackOn.takeTagged .bitString (fun _ => rfl) hoptional
    (by cases extensions <;> simp; decide)
  have htakeExtensions := Extension.readsBackOn.sequenceOf.takeTagged_last .sequence
    (fun _ => rfl) (fun f hf => hoptional f (List.mem_append_right _ hf))
  rw [ofElement?, toElement, Element.sequence?_sequence hlen]
  simp [oids, Option.bind_eq_some_iff, htakeIssuerId, htakeExtensions, hversion, hholder, hissuer,
    hsignature, hvalidity, hattributes, and_assoc]

end AcBody

namespace AttributeCertificate

/-- The identifiers of an attribute certificate. -/
def oids (c : AttributeCertificate) : List Oid := c.body.oids ++ c.signatureAlgorithm.oids

theorem readsBackOn : ReadsBackOn ofElement? toElement fun c => Oid.AllReadable c.oids := by
  rintro ⟨body, signatureAlgorithm, signature⟩ hlen y
  have hfields := length_content_le_of_sequence hlen
  have hbody := AcBody.readsBackOn body (hfields _ (by simp))
  have halgorithm := AlgorithmIdentifier.readsBackOn signatureAlgorithm (hfields _ (by simp))
  rw [ofElement?, toElement, Element.sequence?_sequence hlen]
  simp [oids, Option.bind_eq_some_iff, hbody, halgorithm, and_assoc]

end AttributeCertificate

/-! ### Values -/

/-- A value may be an identifier. -/
def PolicyValue.oids : PolicyValue → List Oid
  | oid id => [id]
  | _ => []

theorem PolicyValue.readsBackOn :
    ReadsBackOn ofElement? toElement fun v => Oid.AllReadable v.oids := by
  intro value hlen y
  cases value with
  | octets bytes =>
    have hread : ofElement? (octets bytes).toElement = some (octets bytes) := rfl
    simp [hread, oids]
  | oid id =>
    have hread : ofElement? (oid id).toElement = (Oid.ofElement? id.toElement).map oid := rfl
    simp [hread, Oid.readsBackOn id hlen, oids]
  | text s =>
    have hread : ofElement? (text s).toElement = (Element.ofUtf8 s).utf8?.map text := rfl
    simp [hread, oids]

/-- The identifiers in the names of the authority and among the values. -/
def PolicyValues.oids (v : PolicyValues) : List Oid :=
  v.authority.toList.flatMap (fun ns => ns.flatMap (·.oids)) ++ v.values.flatMap (·.oids)

theorem PolicyValues.readsBackOn :
    ReadsBackOn ofElement? toElement fun v => Oid.AllReadable v.oids := by
  rintro ⟨authority, values⟩ hlen y
  have hfields := length_content_le_of_sequence hlen
  have hauthority := (GeneralName.listReadsBackOn.implicitSequence 0 fun _ => rfl).takeContext 0
    (by simp) hfields (by simp; decide)
  have hvalues := PolicyValue.readsBackOn.sequenceOf values (hfields _ (by simp))
  rw [ofElement?, toElement, Element.sequence?_sequence hlen]
  simp [oids, takeImplicit?, Option.bind_eq_some_iff, hauthority, hvalues, and_assoc]

theorem AuthorityCertificates.readsBackOn :
    ReadsBackOn ofElement? toElement fun chain => Oid.AllReadable (chain.flatMap (·.oids)) := by
  intro chain hlen y
  have hfields := length_content_le_of_sequence hlen
  have hchain := Certificate.readsBackOn.sequenceOf chain (hfields _ (by simp))
  rw [ofElement?, toElement, Element.sequence?_sequence hlen]
  simp [hchain]

theorem GenericTag.readsBackOn : ReadsBackOn ofElement? toElement fun _ => True := by
  rintro ⟨name, value, qualifier⟩ hlen y
  rw [ofElement?, toElement, Element.sequence?_sequence hlen]
  simp

/-- The identifiers in the names of the authority. -/
def TagList.oids (l : TagList) : List Oid := l.authority.flatMap (·.oids)

theorem TagList.readsBackOn :
    ReadsBackOn ofElement? toElement fun l => Oid.AllReadable l.oids := by
  rintro ⟨authority, tags⟩ hlen y
  have hfields := length_content_le_of_sequence hlen
  have hauthority := GeneralName.listReadsBackOn authority (hfields _ (by simp))
  have htags := GenericTag.readsBackOn.sequenceOf tags (hfields _ (by simp))
  rw [ofElement?, toElement, Element.sequence?_sequence hlen]
  simp [oids, Option.bind_eq_some_iff, hauthority, htags]

/-! ### Encodings -/

/-- What is encoded is decoded to the same value if all its object identifiers can be read, and to no
value at all otherwise. -/
theorem decode_encode_iff_allReadable :
    (∀ (c : AttributeCertificate) (bytes : Bytes), c.toElement.encode? = some bytes →
      ∀ c', AttributeCertificate.ofDer? bytes = some c' ↔ Oid.AllReadable c.oids ∧ c = c') ∧
    (∀ (v : PolicyValues) (bytes : Bytes), v.toElement.encode? = some bytes →
      ∀ v', (Element.decode? bytes).bind PolicyValues.ofElement? = some v' ↔
        Oid.AllReadable v.oids ∧ v = v') ∧
    (∀ (chain : List Certificate) (bytes : Bytes),
      (AuthorityCertificates.toElement chain).encode? = some bytes →
        ∀ chain', AuthorityCertificates.ofDer? bytes = some chain' ↔
          Oid.AllReadable (chain.flatMap (·.oids)) ∧ chain = chain') ∧
    ∀ (lists : List TagList) (bytes : Bytes), (TagList.listsElement lists).encode? = some bytes →
      ∀ lists', TagList.listsOfDer? bytes = some lists' ↔
        Oid.AllReadable (lists.flatMap (·.oids)) ∧ lists = lists' := by
  refine ⟨fun c bytes h => AttributeCertificate.readsBackOn.of_encode? h,
    fun v bytes h => PolicyValues.readsBackOn.of_encode? h,
    fun chain bytes h => AuthorityCertificates.readsBackOn.of_encode? h, fun lists bytes h => ?_⟩
  simpa [TagList.listsOfDer?] using TagList.readsBackOn.sequenceOf.of_encode? h

namespace Sample

/-- Names of all kinds. -/
def kinds : List GeneralName :=
  [.other AttributeType.emailAddress ⟨.null, []⟩, .email ⟨"root@localhost", by decide⟩,
    .dns ⟨"localhost", by decide⟩,
    .directory (Name.extend ⟨[]⟩ ⟨AttributeType.commonName, .ofUtf8 "authority"⟩),
    .ediParty (some ⟨.ofUtf8 "assigner", by decide⟩) ⟨.ofUtf8 "party", by decide⟩,
    .uri ⟨"vo://localhost:15000", by decide⟩, .ip [127, 0, 0, 1],
    .registered AttributeType.emailAddress]

/-- An attribute certificate with all optional parts. -/
def detailed : AttributeCertificate where
  body := {
    version := 1
    holder := ⟨some ⟨kinds, ⟨[21], by decide, by decide⟩, some (.ofBytes [1])⟩, some kinds⟩
    issuer := .v2 (some kinds) (some ⟨kinds, ⟨[22], by decide, by decide⟩, none⟩)
    signature := ⟨Algorithm.sha256WithRsa, some ⟨.null, []⟩⟩
    serialNumber := ⟨[23], by decide, by decide⟩
    validity := ⟨⟨2010, 1, 1, 0, 0, 0, by decide⟩, ⟨2011, 1, 1, 0, 0, 0, by decide⟩⟩
    attributes := [⟨AttributeCertificate.fqanAttributeId, .singleton (.ofOctets [0x2F])⟩]
    issuerUniqueId := some (.ofBytes [4])
    extensions := some [⟨TagList.extensionId, true, []⟩] }
  signatureAlgorithm := ⟨Algorithm.sha256WithRsa, none⟩
  signature := .ofBytes [5]

/-- Values of all kinds. -/
def values : PolicyValues :=
  ⟨some kinds, [.octets [0x2F], .oid AttributeType.emailAddress, .text "/org"]⟩

/-- A certificate with all optional parts. -/
def numbered : Certificate where
  body := {
    version := .v3
    serialNumber := ⟨[24], by decide, by decide⟩
    signature := ⟨Algorithm.sha256WithRsa, none⟩
    issuer := ⟨[]⟩
    validity := ⟨.utc ⟨2010, 1, 1, 0, 0, 0, by decide⟩ (by decide),
      .general ⟨2050, 1, 1, 0, 0, 0, by decide⟩⟩
    subject := Name.extend ⟨[]⟩ ⟨AttributeType.commonName, .ofUtf8 "authority"⟩
    publicKey := ⟨⟨Algorithm.sha256WithRsa, none⟩, .ofBytes [7]⟩
    issuerUniqueId := some (.ofBytes [8])
    subjectUniqueId := some (.ofBytes [9])
    extensions := some [⟨BasicConstraints.extensionId, true, []⟩] }
  signatureAlgorithm := ⟨Algorithm.sha256WithRsa, none⟩
  signature := .ofBytes [10]

/-- A list of generic attributes. -/
def tagList : TagList := ⟨kinds, [⟨[0x61], [0x62], [0x63]⟩]⟩

end Sample

theorem decode_encode_iff_allReadable_sample :
    AttributeCertificate.ofDer? Sample.detailed.toDer = some Sample.detailed ∧
    (Element.decode? Sample.values.toElement.encode).bind PolicyValues.ofElement? =
      some Sample.values ∧
    AuthorityCertificates.ofDer? (AuthorityCertificates.toElement [Sample.numbered]).encode =
      some [Sample.numbered] ∧
    TagList.listsOfDer? (TagList.listsElement [Sample.tagList]).encode = some [Sample.tagList] := by
  obtain ⟨hcertificate, hvalues, hchain, hlists⟩ := decode_encode_iff_allReadable
  exact ⟨(hcertificate _ _ (by decide +kernel) _).2 ⟨by decide +kernel, rfl⟩,
    (hvalues _ _ (by decide +kernel) _).2 ⟨by decide +kernel, rfl⟩,
    (hchain _ _ (by decide +kernel) _).2 ⟨by decide +kernel, rfl⟩,
    (hlists _ _ (by decide +kernel) _).2 ⟨by decide +kernel, rfl⟩⟩

/-- An attribute certificate that has an identifier of two bytes, 1.2.3. -/
def Sample.short : AttributeCertificate :=
  { Sample.detailed with signatureAlgorithm := ⟨⟨[0x2A, 0x03], rfl⟩, none⟩ }

/-- It is written but not read. -/
theorem decode_encode_short :
    Sample.short.toElement.encode? = some Sample.short.toDer ∧
      AttributeCertificate.ofDer? Sample.short.toDer = none := by
  decide +kernel

end GridAuthz
