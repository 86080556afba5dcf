import GridAuthz.Membership.Chain
import GridAuthz.Proofs.AttributeCertificate.Targets
import GridAuthz.Proofs.Membership.Details

/-!
# What is read from an attribute certificate

Which parts of an attribute certificate each statement about its holder comes from
(`Membership.ofCertificate_eq_ok_iff`). Of several extensions with targets the last one counts
(`Membership.targets_of_readDetails`).
-/

namespace GridAuthz

/-! ### Distinguished names -/

theorem GeneralName.mem_of_firstDirectory? {names : List GeneralName} {name : Name}
    (h : firstDirectory? names = some name) : .directory name ∈ names := by
  obtain ⟨n, hn, hname⟩ := List.exists_of_findSome?_eq_some h
  cases n with
  | directory name' =>
    cases hname
    exact hn
  | _ => cases hname

theorem GeneralName.firstDirectory?_eq_none_iff {names : List GeneralName} :
    firstDirectory? names = none ↔ ∀ name, .directory name ∉ names := by
  rw [firstDirectory?, List.findSome?_eq_none_iff]
  constructor
  · intro h name hname
    exact Option.some_ne_none name (h _ hname)
  · intro h n hn
    cases n with
    | directory name => exact absurd hn (h name)
    | _ => rfl

theorem GeneralName.exists_firstDirectory?_iff {names : List GeneralName} :
    (∃ name, firstDirectory? names = some name) ↔ ∃ name, .directory name ∈ names := by
  rw [← Option.ne_none_iff_exists', ne_eq, firstDirectory?_eq_none_iff, not_forall_not]

namespace Membership

/-! ### The certificate as a whole -/

/-- What is said is what an attribute certificate holds. -/
structure IsReadFrom (m : Membership) (c : AttributeCertificate) : Prop where
  /-- It is of the second version. -/
  version : c.body.version = supportedVersion
  /-- It refers to the certificate of the holder. -/
  reference : ∃ reference, c.body.holder.certificate = some reference ∧
    GeneralName.firstDirectory? reference.issuer = some m.holder ∧
    reference.serial = m.holderSerial
  /-- The subject of the holder is the first distinguished name, if there is one. -/
  subject : c.body.holder.names.bind GeneralName.firstDirectory? = m.holderSubject
  /-- The authority is the first distinguished name. -/
  issuer : GeneralName.firstDirectory? c.body.issuer.names = some m.issuer
  /-- There are groups and roles, with a policy authority. -/
  fqans : ∃ values, policyValues c = .ok values ∧ authorityOf values = .ok m.authority ∧
    readFqans values.values = .ok m.fqans
  /-- The extensions can be read. -/
  details : readDetails c.extensions = .ok ⟨m.authorityChain, m.genericAttributes, m.targets⟩
  /-- The signature consists of whole bytes. -/
  signature : c.signature.octets? = some m.signature
  /-- The first moment is that of the certificate. -/
  notBefore : c.body.validity.notBefore = m.notBefore
  /-- The last moment is that of the certificate. -/
  notAfter : c.body.validity.notAfter = m.notAfter
  /-- The certificate is kept. -/
  certificate : c = m.certificate

theorem ofCertificate_eq_ok_iff {c : AttributeCertificate} {m : Membership} :
    ofCertificate c = .ok m ↔ m.IsReadFrom c := by
  simp only [ofCertificate, bind_eq_ok_iff, guard_bind_eq_ok_iff, pure_eq_ok_iff, require_eq_ok_iff,
    ne_eq, Decidable.not_not]
  constructor
  · rintro ⟨hversion, reference, hreference, holder, hholder, issuer, hissuer, values, hvalues,
      authority, hauthority, fqans, hfqans, details, hdetails, signature, hsignature, rfl⟩
    exact ⟨hversion, ⟨reference, hreference, hholder, rfl⟩, rfl, hissuer,
      ⟨values, hvalues, hauthority, hfqans⟩, hdetails, hsignature, rfl, rfl, rfl⟩
  · rintro ⟨hversion, ⟨reference, hreference, hholder, hserial⟩, hsubject, hissuer,
      ⟨values, hvalues, hauthority, hfqans⟩, hdetails, hsignature, hbefore, hafter, hcertificate⟩
    refine ⟨hversion, reference, hreference, _, hholder, _, hissuer, values, hvalues, _, hauthority,
      _, hfqans, _, hdetails, _, hsignature, ?_⟩
    cases m
    simp_all

theorem ofElement_eq_ok_iff {e : Der.Element} {m : Membership} :
    ofElement e = .ok m ↔
      AttributeCertificate.ofElement? e = some m.certificate ∧
        ofCertificate m.certificate = .ok m := by
  simp only [ofElement, bind_eq_ok_iff, require_eq_ok_iff]
  constructor
  · rintro ⟨c, hc, h⟩
    cases (ofCertificate_eq_ok_iff.1 h).certificate
    exact ⟨hc, h⟩
  · rintro ⟨hc, h⟩
    exact ⟨m.certificate, hc, h⟩

/-- What a chain carries is read element by element. -/
theorem readChain_eq_ok {chain : List Certificate} {bytes : Bytes} {elements : List Der.Element}
    (hx : extension? chain = some bytes)
    (hs : (Der.Element.decode? bytes).bind Der.Element.sequence? = some elements) :
    readChain chain = .ok (elements.map ofElement) := by
  simp only [readChain, hx, hs]

/-- What a chain carries as the encoding of a sequence is read element by element. -/
theorem readChain_of_extension? {chain : List Certificate} {elements : List Der.Element}
    (hx : extension? chain = some (Der.Element.sequence elements).encode)
    (hlen : (Der.Element.encodeAll elements).length ≤ Der.maxLength) :
    readChain chain = .ok (elements.map ofElement) :=
  readChain_eq_ok hx (Der.Element.decode?_encode_bind_sequence? hlen)

/-! ### Extensions -/

/-- The last extension with targets, if there is any. -/
def lastTargets? (extensions : List Extension) : Option Extension :=
  (Extension.allWith Targets.extensionId extensions).getLast?

theorem mem_of_lastTargets? {extensions : List Extension} {x : Extension}
    (h : lastTargets? extensions = some x) : x ∈ extensions ∧ x.id = Targets.extensionId := by
  simpa [Extension.allWith] using List.mem_of_getLast? h

/-- The targets are those of the last extension that holds any. -/
theorem targets_of_readDetails {extensions : List Extension} {d : Details}
    (h : readDetails extensions = .ok d) :
    (∀ x, lastTargets? extensions = some x → Targets.ofDer? x.value = some d.targets) ∧
      (lastTargets? extensions = none → d.targets = []) := by
  obtain ⟨-, -, htargets⟩ := lastHolds_details h
  rw [LastHolds] at htargets
  constructor
  · intro x hx
    rw [lastTargets?] at hx
    rwa [hx] at htargets
  · intro hnone
    rw [lastTargets?] at hnone
    rwa [hnone] at htargets

variable {c : AttributeCertificate} {m : Membership}

theorem IsReadFrom.mem_targets_iff (h : m.IsReadFrom c) {x : Extension}
    (hx : lastTargets? c.extensions = some x) {host : String} :
    host ∈ m.targets ↔ Targets.DeclaresHost x.value host :=
  Targets.mem_iff_of_ofDer? ((targets_of_readDetails h.details).1 x hx)

/-- Where no host is declared there are no targets, whatever else is declared. -/
theorem IsReadFrom.targets_eq_nil (h : m.IsReadFrom c)
    (hnone : ∀ x ∈ c.extensions, x.id = Targets.extensionId →
      ∀ host, ¬Targets.DeclaresHost x.value host) : m.targets = [] := by
  cases hlast : lastTargets? c.extensions with
  | none => exact (targets_of_readDetails h.details).2 hlast
  | some x =>
    obtain ⟨hx, hid⟩ := mem_of_lastTargets? hlast
    exact List.eq_nil_iff_forall_not_mem.2 fun host hhost =>
      hnone x hx hid host ((h.mem_targets_iff hlast).1 hhost)

end Membership

/-! ### Another signature -/

/-- An attribute certificate with another signature, and other algorithms for it. -/
def AttributeCertificate.withSignature (c : AttributeCertificate)
    (inner outer : AlgorithmIdentifier) (signature : Der.BitString) : AttributeCertificate where
  body := { c.body with signature := inner }
  signatureAlgorithm := outer
  signature

/-- What the attribute certificate says with another signature, which has the given bytes. -/
def Membership.withSignature (m : Membership) (inner outer : AlgorithmIdentifier)
    (signature : Der.BitString) (bytes : Bytes) : Membership :=
  { m with
    signature := bytes
    certificate := m.certificate.withSignature inner outer signature }

/-- Neither the signature nor its algorithms decide what else is read. -/
theorem Membership.IsReadFrom.withSignature {m : Membership} (h : m.IsReadFrom m.certificate)
    (inner outer : AlgorithmIdentifier) {signature : Der.BitString} {bytes : Bytes}
    (hbytes : signature.octets? = some bytes) :
    (m.withSignature inner outer signature bytes).IsReadFrom
      (m.certificate.withSignature inner outer signature) where
  version := h.version
  reference := h.reference
  subject := h.subject
  issuer := h.issuer
  fqans := h.fqans
  details := h.details
  signature := hbytes
  notBefore := h.notBefore
  notAfter := h.notAfter
  certificate := rfl

end GridAuthz
