import GridAuthz.Proofs.Membership.PolicyAuthorities
import GridAuthz.Proofs.Membership.Reading
import GridAuthz.Signature

/-!
# Well formed attribute certificates

The attribute certificates that are read are the well formed ones, and what is read from one is what
it holds (`Membership.ofCertificate_wellFormed`). Only the first attribute for groups and roles counts:
a malformed one is not made good by another behind it (`Membership.ofCertificate_malformedFirst`).
-/

namespace GridAuthz

/-! ### Groups and roles -/

/-- The bytes of a value that names a group or role. -/
def PolicyValue.bytes? : PolicyValue → Option Bytes
  | octets bytes => some bytes
  | oid _ => none
  | text s => some (Bytes.ofText s)

/-- The first identifier among the names of the authority writes it. -/
def PolicyValues.HasAuthority (v : PolicyValues) (a : PolicyAuthority) : Prop :=
  ∃ names identifier, v.authority = some names ∧
    names.findSome? GeneralName.uri? = some identifier ∧ a.IsWritten identifier

theorem PolicyValues.HasAuthority.ne_empty {v : PolicyValues} {a : PolicyAuthority}
    (h : v.HasAuthority a) : a.vo ≠ "" ∧ a.host ≠ "" := by
  obtain ⟨_, _, -, -, hwritten⟩ := h
  exact ⟨hwritten.vo_ne, hwritten.host_ne⟩

/-- There are groups and roles, all of them text, and an authority. -/
structure PolicyValues.IsReadable (v : PolicyValues) : Prop where
  /-- The authority is written as one. -/
  authority : ∃ a, v.HasAuthority a
  /-- All bytes are text. -/
  texts : ∀ bytes, .octets bytes ∈ v.values → bytes.IsText
  /-- There is a group or role. -/
  exists_bytes : ∃ value ∈ v.values, value.bytes? ≠ none

/-- The first value of an attribute can be decoded to values with their authority. -/
def AcAttribute.HasFirst (a : AcAttribute) (v : PolicyValues) : Prop :=
  ∃ value, a.values.members.head? = some value ∧ PolicyValues.ofElement? value = some v

namespace Membership

theorem policyValues_eq_ok_iff {c : AttributeCertificate} {v : PolicyValues} :
    policyValues c = .ok v ↔ ∃ a, c.fqanAttribute? = some a ∧ a.HasFirst v := by
  simp only [policyValues, bind_eq_ok_iff, require_eq_ok_iff, AcAttribute.HasFirst]

theorem authorityOf_eq_ok_iff {v : PolicyValues} {a : PolicyAuthority} :
    authorityOf v = .ok a ↔ v.HasAuthority a := by
  simp only [authorityOf, bind_eq_ok_iff, require_eq_ok_iff, PolicyAuthority.ofText?_eq_some_iff,
    PolicyValues.HasAuthority]
  cases v.authority <;> simp

/-- The group or role that bytes name. -/
def fqanOfBytes (bytes : Bytes) : Except Fault String :=
  (require (Bytes.toText? bytes) .fqanText).map Fqan.normalize

theorem fqan?_eq_map_bytes? (value : PolicyValue) : fqan? value = value.bytes?.map fqanOfBytes := by
  cases value with
  | octets bytes => rfl
  | oid id => rfl
  | text s =>
    rw [PolicyValue.bytes?, Option.map_some, fqanOfBytes, Bytes.toText?_ofText]
    rfl

theorem fqanOfBytes_eq_ok_iff (bytes : Bytes) (fqan : String) :
    fqanOfBytes bytes = .ok fqan ↔
      ∃ name, Bytes.ofText name = bytes ∧ Fqan.normalize name = fqan := by
  simp only [fqanOfBytes, map_eq_ok_iff, require_eq_ok_iff, Bytes.toText?_eq_some_iff]

/-- The groups and roles are the normal forms of all names, in their order. -/
theorem readFqans_eq_ok_iff {values : List PolicyValue} {fqans : List String} :
    readFqans values = .ok fqans ↔ fqans ≠ [] ∧ ∃ names : List String,
      names.map Bytes.ofText = values.filterMap PolicyValue.bytes? ∧
        names.map Fqan.normalize = fqans := by
  have hread : (values.filterMap fqan?).mapM id =
      (values.filterMap PolicyValue.bytes?).mapM fqanOfBytes := by
    rw [funext fqan?_eq_map_bytes?, ← List.map_filterMap, List.mapM_map]
    rfl
  rw [readFqans, hread]
  simp only [bind_eq_ok_iff, mapM_eq_ok_iff fqanOfBytes_eq_ok_iff]
  constructor
  · rintro ⟨fqans', hnames, h⟩
    split_ifs at h with hempty
    cases h
    exact ⟨by simpa using hempty, hnames⟩
  · rintro ⟨hne, hnames⟩
    exact ⟨fqans, hnames, by simp [hne]⟩

/-- Only the bytes of a value may be no text. -/
theorem forall_isText_iff {values : List PolicyValue} :
    (∀ bytes ∈ values.filterMap PolicyValue.bytes?, bytes.IsText) ↔
      ∀ bytes, .octets bytes ∈ values → bytes.IsText := by
  simp only [List.mem_filterMap]
  constructor
  · intro h bytes hbytes
    exact h bytes ⟨_, hbytes, rfl⟩
  · rintro h bytes ⟨value, hvalue, hbytes⟩
    cases value with
    | octets bytes' =>
      cases hbytes
      exact h bytes hvalue
    | oid id => cases hbytes
    | text s => exact ⟨s, Option.some.inj hbytes⟩

theorem exists_readFqans_iff {values : List PolicyValue} :
    (∃ fqans, readFqans values = .ok fqans) ↔
      (∀ bytes, .octets bytes ∈ values → bytes.IsText) ∧
        ∃ value ∈ values, value.bytes? ≠ none := by
  have hne : values.filterMap PolicyValue.bytes? ≠ [] ↔ ∃ value ∈ values, value.bytes? ≠ none := by
    simp [List.filterMap_eq_nil_iff]
  simp only [readFqans_eq_ok_iff]
  rw [← forall_isText_iff, ← hne]
  constructor
  · rintro ⟨fqans, hfqans, names, hnames, rfl⟩
    refine ⟨exists_map_eq_iff.1 ⟨names, hnames⟩, ?_⟩
    rw [← hnames]
    simpa using hfqans
  · rintro ⟨htexts, hbytes⟩
    obtain ⟨names, hnames⟩ := exists_map_eq_iff.2 htexts
    refine ⟨_, ?_, names, hnames, rfl⟩
    rw [← hnames] at hbytes
    simpa using hbytes

theorem exists_fqans_iff {v : PolicyValues} :
    (∃ a fqans, authorityOf v = .ok a ∧ readFqans v.values = .ok fqans) ↔ v.IsReadable := by
  simp only [authorityOf_eq_ok_iff, exists_and_left, exists_and_right, exists_readFqans_iff]
  exact ⟨fun ⟨ha, htexts, hbytes⟩ => ⟨ha, htexts, hbytes⟩,
    fun h => ⟨h.authority, h.texts, h.exists_bytes⟩⟩

end Membership

/-! ### The certificate as a whole -/

/-- An attribute certificate is well formed with an attribute for its groups and roles. -/
structure AttributeCertificate.IsWellFormedWith (c : AttributeCertificate) (a : AcAttribute) :
    Prop where
  /-- It is of the second version. -/
  version : c.body.version = 1
  /-- It refers to the certificate of the holder, whose issuer has a distinguished name. -/
  holder : ∃ reference name, c.body.holder.certificate = some reference ∧
    .directory name ∈ reference.issuer
  /-- The attribute authority has a distinguished name. -/
  issuer : ∃ name, .directory name ∈ c.body.issuer.names
  /-- The first value of the attribute can be read. -/
  fqans : ∃ v, a.HasFirst v ∧ v.IsReadable
  /-- All extensions can be read. -/
  extensions : ∀ x ∈ c.extensions, x.IsReadable
  /-- The signature consists of whole bytes. -/
  signature : c.signature.unused = 0

namespace Membership

/-- What is said restates what the attribute certificate holds. -/
structure Restates (m : Membership) (c : AttributeCertificate) : Prop where
  /-- The holder is the first distinguished name of the issuer of the certificate that is referred to,
  with its number. -/
  holder : ∃ reference, c.body.holder.certificate = some reference ∧
    GeneralName.firstDirectory? reference.issuer = some m.holder ∧
    reference.serial = m.holderSerial
  /-- The subject is the first distinguished name among those of the holder, if there is one. -/
  subject : m.holderSubject = c.body.holder.names.bind GeneralName.firstDirectory?
  /-- The authority is the first distinguished name. -/
  issuer : GeneralName.firstDirectory? c.body.issuer.names = some m.issuer
  /-- The organisation and its server are those of the policy authority, and the groups and roles the
  names in their order. -/
  fqans : ∃ a v, c.fqanAttribute? = some a ∧ a.HasFirst v ∧ v.HasAuthority m.authority ∧
    ∃ names : List String, names.map Bytes.ofText = v.values.filterMap PolicyValue.bytes? ∧
      m.fqans = names.map Fqan.normalize
  /-- One of the groups and roles is the first. -/
  primary : ∃ fqan, m.primaryFqan? = some fqan
  /-- There is an organisation. -/
  vo : m.vo ≠ ""
  /-- There is a server. -/
  host : m.host ≠ ""
  /-- The certificates of the authority are those of the last extension with any. -/
  chain : LastHolds AuthorityCertificates.extensionId
    (fun value chain => AuthorityCertificates.ofDer? value = some chain) c.extensions
    m.authorityChain
  /-- The generic attributes are those of all lists of the last extension with any. -/
  attributes : LastHolds TagList.extensionId HoldsAttributes c.extensions m.genericAttributes
  /-- The targets are those of the last extension with any. -/
  targets : LastHolds Targets.extensionId (fun value hosts => Targets.ofDer? value = some hosts)
    c.extensions m.targets
  /-- The first moment is that of the certificate. -/
  notBefore : m.notBefore = c.body.validity.notBefore
  /-- The last moment is that of the certificate. -/
  notAfter : m.notAfter = c.body.validity.notAfter
  /-- The signature is that of the certificate. -/
  signature : m.signature = c.signature.bytes
  /-- The certificate is kept. -/
  certificate : m.certificate = c

variable {c : AttributeCertificate} {m : Membership}

theorem IsReadFrom.exists_isWellFormedWith (h : m.IsReadFrom c) :
    ∃ a, c.fqanAttribute? = some a ∧ c.IsWellFormedWith a := by
  obtain ⟨reference, hreference, hholder, -⟩ := h.reference
  obtain ⟨v, hv, hauthority, hfqans⟩ := h.fqans
  obtain ⟨a, ha, hfirst⟩ := policyValues_eq_ok_iff.1 hv
  refine ⟨a, ha, h.version, ⟨reference, _, hreference, GeneralName.mem_of_firstDirectory? hholder⟩,
    ⟨_, GeneralName.mem_of_firstDirectory? h.issuer⟩,
    ⟨v, hfirst, exists_fqans_iff.1 ⟨_, _, hauthority, hfqans⟩⟩,
    exists_readDetails_iff.1 ⟨_, h.details⟩, ?_⟩
  exact (Option.ite_none_right_eq_some.1 h.signature).1

theorem exists_isReadFrom {a : AcAttribute} (ha : c.fqanAttribute? = some a)
    (h : c.IsWellFormedWith a) : ∃ m : Membership, m.IsReadFrom c := by
  obtain ⟨reference, name, hreference, hname⟩ := h.holder
  obtain ⟨holder, hholder⟩ := GeneralName.exists_firstDirectory?_iff.2 ⟨name, hname⟩
  obtain ⟨issuer, hissuer⟩ := GeneralName.exists_firstDirectory?_iff.2 h.issuer
  obtain ⟨v, hfirst, hv⟩ := h.fqans
  obtain ⟨authority, fqans, hauthority, hfqans⟩ := exists_fqans_iff.2 hv
  obtain ⟨details, hdetails⟩ := exists_readDetails_iff.2 h.extensions
  have hsignature : c.signature.octets? = some c.signature.bytes := if_pos h.signature
  exact ⟨{
      authority, holder, issuer, fqans
      holderSerial := reference.serial
      holderSubject := _
      notBefore := _
      notAfter := _
      genericAttributes := details.genericAttributes
      targets := details.targets
      signature := _
      authorityChain := details.authorityChain
      certificate := c },
    { version := h.version
      reference := ⟨reference, hreference, hholder, rfl⟩
      subject := rfl
      issuer := hissuer
      fqans := ⟨v, policyValues_eq_ok_iff.2 ⟨a, ha, hfirst⟩, hauthority, hfqans⟩
      details := hdetails
      signature := hsignature
      notBefore := rfl
      notAfter := rfl
      certificate := rfl }⟩

theorem IsReadFrom.restates (h : m.IsReadFrom c) : m.Restates c := by
  obtain ⟨v, hv, hauthority, hfqans⟩ := h.fqans
  obtain ⟨a, ha, hfirst⟩ := policyValues_eq_ok_iff.1 hv
  rw [authorityOf_eq_ok_iff] at hauthority
  obtain ⟨hne, names, hnames, hnormal⟩ := readFqans_eq_ok_iff.1 hfqans
  obtain ⟨fqan, fqans, hcons⟩ := List.exists_cons_of_ne_nil hne
  obtain ⟨hchain, hattributes, htargets⟩ := lastHolds_details h.details
  obtain ⟨hvo, hhost⟩ := hauthority.ne_empty
  exact {
    holder := h.reference
    subject := h.subject.symm
    issuer := h.issuer
    fqans := ⟨a, v, ha, hfirst, hauthority, names, hnames, hnormal.symm⟩
    primary := ⟨fqan, by rw [primaryFqan?, hcons, List.head?_cons]⟩
    vo := hvo
    host := hhost
    chain := hchain
    attributes := hattributes
    targets := htargets
    notBefore := h.notBefore.symm
    notAfter := h.notAfter.symm
    signature := (Option.some.inj (Option.ite_none_right_eq_some.1 h.signature).2).symm
    certificate := h.certificate.symm }

/-- An attribute certificate is read if and only if it is well formed with the first attribute for
groups and roles. What is read restates it. -/
theorem ofCertificate_wellFormed :
    (∀ c : AttributeCertificate, (∃ m, ofCertificate c = .ok m) ↔
      ∃ a, c.fqanAttribute? = some a ∧ c.IsWellFormedWith a) ∧
    ∀ (c : AttributeCertificate) (m : Membership), ofCertificate c = .ok m → m.Restates c := by
  simp only [ofCertificate_eq_ok_iff]
  exact ⟨fun c => ⟨fun ⟨m, h⟩ => h.exists_isWellFormedWith,
    fun ⟨a, ha, h⟩ => exists_isReadFrom ha h⟩, fun c m h => h.restates⟩

end Membership

namespace Sample

/-- The attribute for groups and roles: a group, and a role that says nothing. -/
def groups : AcAttribute :=
  ⟨AttributeCertificate.fqanAttributeId, .singleton (PolicyValues.toElement
    ⟨some [.uri ⟨"org://host:15000", by decide⟩],
      [.octets (Bytes.ofText "/org/Role=user"), .oid AttributeCertificate.fqanAttributeId,
        .text "/org/Role=NULL/Capability=NULL"]⟩)⟩

/-- An extension with a list of one generic attribute. -/
def tags (name : Bytes) : Extension :=
  ⟨TagList.extensionId, false, (TagList.listsElement [⟨[], [⟨name, [0x62], [0x63]⟩]⟩]).encode⟩

/-- An attribute certificate with two extensions for generic attributes. -/
def grouped : AttributeCertificate where
  body := {
    version := 1
    holder := ⟨some ⟨[.directory ⟨[]⟩], ⟨[31], by decide, by decide⟩, none⟩, some [.ip []]⟩
    issuer := .v2 (some [.ip [], .directory ⟨[]⟩]) none
    signature := ⟨Algorithm.sha256WithRsa, none⟩
    serialNumber := ⟨[32], by decide, by decide⟩
    validity := ⟨⟨2013, 1, 1, 0, 0, 0, by decide⟩, ⟨2014, 1, 1, 0, 0, 0, by decide⟩⟩
    attributes := [groups]
    issuerUniqueId := none
    extensions := some [tags [0x61], tags [0x64]] }
  signatureAlgorithm := ⟨Algorithm.sha256WithRsa, none⟩
  signature := .ofBytes [5]

/-- Another one, with a malformed attribute for groups and roles in front. -/
def malformedFirst : AttributeCertificate :=
  { grouped with
    body := { grouped.body with
      attributes := [⟨AttributeCertificate.fqanAttributeId, .singleton (.ofOctets [0x2F])⟩, groups] } }

theorem ofCertificate_grouped :
    ∃ m, Membership.ofCertificate grouped = .ok m ∧
      (m.fqans, m.genericAttributes) = (["/org/Role=user", "/org"], [⟨"d", "b", "c"⟩]) :=
  map_eq_ok_iff.1 (by decide +kernel)

end Sample

namespace Membership

theorem ofCertificate_wellFormed_sample :
    (∃ a, Sample.grouped.fqanAttribute? = some a ∧ Sample.grouped.IsWellFormedWith a) ∧
      ∃ m, ofCertificate Sample.grouped = .ok m ∧ m.fqans = ["/org/Role=user", "/org"] ∧
        m.genericAttributes = [⟨"d", "b", "c"⟩] ∧ m.Restates Sample.grouped := by
  obtain ⟨m, hm, hsaid⟩ := Sample.ofCertificate_grouped
  obtain ⟨hfqans, hattributes⟩ := Prod.mk.inj hsaid
  obtain ⟨hwell, hrestates⟩ := ofCertificate_wellFormed
  exact ⟨(hwell _).1 ⟨m, hm⟩, m, hm, hfqans, hattributes, hrestates _ _ hm⟩

/-- Another attribute that an attribute certificate is well formed with is of no use behind one that
is malformed. -/
theorem ofCertificate_malformedFirst :
    AttributeCertificate.ofDer? Sample.malformedFirst.toDer = some Sample.malformedFirst ∧
      (∃ a ∈ Sample.malformedFirst.body.attributes,
        a.kind = AttributeCertificate.fqanAttributeId ∧
          Sample.malformedFirst.IsWellFormedWith a) ∧
      ofCertificate Sample.malformedFirst = .error .fqanAttribute := by
  obtain ⟨m, hm, -⟩ := Sample.ofCertificate_grouped
  obtain ⟨a, ha, hwell⟩ := (ofCertificate_eq_ok_iff.1 hm).exists_isWellFormedWith
  obtain rfl : Sample.groups = a := Option.some.inj ha
  -- the attributes are all in which the two differ
  exact ⟨by decide +kernel, ⟨Sample.groups, by decide +kernel, rfl, hwell.version, hwell.holder,
    hwell.issuer, hwell.fqans, hwell.extensions, hwell.signature⟩, by decide +kernel⟩

end Membership

end GridAuthz
