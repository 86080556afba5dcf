import GridAuthz.Proofs.AttributeCertificate.ReadBack
import GridAuthz.Proofs.Chain.Delegation
import GridAuthz.Proofs.Membership.Reading

/-!
# Attribute certificates that a proxy carries

A request is made by settings in any order, of which some add attribute certificates
(`ProxyRequest.ofSettings`). The proxy carries them one after the other, and each is read from its
chain as it is read alone (`readChain_of_issue`). A proxy without any is read as its issuer is.
-/

namespace GridAuthz

/-! ### Reading what is embedded -/

namespace Membership

/-- What the encoding of an attribute certificate says, read by itself. -/
def ofDer (bytes : Bytes) : Except Fault Membership := do
  ofElement (← require (Der.Element.decode? bytes) .encoding)

variable {c : AttributeCertificate}

theorem ofDer_toDer (hlen : c.toElement.content.length ≤ Der.maxLength) :
    ofDer c.toDer = ofElement c.toElement := by
  rw [ofDer, AttributeCertificate.toDer, Der.Element.decode?_encode hlen]
  rfl

/-- What was encoded is read as it was, or not at all. -/
theorem ofElement_toElement (hlen : c.toElement.content.length ≤ Der.maxLength) :
    ofElement c.toElement = if Oid.AllReadable c.oids then ofCertificate c else .error .encoding := by
  have hread := AttributeCertificate.readsBackOn c hlen
  split_ifs with hoids
  · rw [ofElement, (hread c).2 ⟨hoids, rfl⟩]
    rfl
  · have hnone : AttributeCertificate.ofElement? c.toElement = none :=
      Option.eq_none_iff_forall_ne_some.2 fun y hy => hoids ((hread y).1 hy).1
    rw [ofElement, hnone]
    rfl

end Membership

/-! ### Requests made by settings -/

namespace ProxyRequest

/-- One setting of a request. -/
inductive Setting where
  /-- How long the proxy is valid. -/
  | lifetime (lifetime : Duration)
  /-- The kind of proxy. -/
  | kind (kind : ProxyKind)
  /-- The rights of the proxy. -/
  | delegation (delegation : Delegation)
  /-- The bits of the new key. -/
  | keyBits (bits : Nat)
  /-- How many proxies may follow below. -/
  | pathLength (pathLength : Option UInt32)
  /-- One more attribute certificate. -/
  | certificate (c : AttributeCertificate)
  /-- Several more attribute certificates. -/
  | certificates (cs : List AttributeCertificate)

/-- The attribute certificates that a setting adds. -/
def Setting.added : Setting → List AttributeCertificate
  | certificate c => [c]
  | certificates cs => cs
  | _ => []

/-- The request with one more setting. -/
def set (r : ProxyRequest) : Setting → ProxyRequest
  | .lifetime lifetime => { r with lifetime }
  | .kind kind => { r with kind }
  | .delegation delegation => { r with delegation }
  | .keyBits keyBits => { r with keyBits }
  | .pathLength pathLength => { r with pathLength }
  | .certificate c => r.withCertificate c
  | .certificates cs => r.withCertificates cs

/-- The request that some settings make, one after the other. -/
def ofSettings (settings : List Setting) : ProxyRequest := settings.foldl set {}

/-- The attribute certificates that some settings add, in order. -/
def addedBy (settings : List Setting) : List AttributeCertificate :=
  settings.flatMap Setting.added

theorem certificates_set (r : ProxyRequest) (s : Setting) :
    (r.set s).certificates = r.certificates ++ s.added := by
  cases s <;> simp [set, Setting.added, withCertificate, withCertificates]

theorem certificates_foldl_set (r : ProxyRequest) (settings : List Setting) :
    (settings.foldl set r).certificates = r.certificates ++ addedBy settings := by
  induction settings generalizing r with
  | nil => simp [addedBy]
  | cons s settings ih =>
    rw [List.foldl_cons, ih, certificates_set, List.append_assoc, addedBy, addedBy,
      List.flatMap_cons]

/-- Attribute certificates are kept in the order in which they were added. -/
theorem certificates_ofSettings (settings : List Setting) :
    (ofSettings settings).certificates = addedBy settings :=
  certificates_foldl_set {} settings

/-! ### Reading an issued proxy -/

theorem membershipExtension?_eq_some {r : ProxyRequest} (hr : r.certificates ≠ []) :
    r.membershipExtension? = some ⟨Membership.extensionId, false,
      (Der.Element.sequenceOf AttributeCertificate.toElement r.certificates).encode⟩ := by
  simp [membershipExtension?, hr]

namespace Issued

variable {r : ProxyRequest} {c d : Credential} {key : RsaPrivateKey} {serial : UInt32}
  (h : r.Issued c key serial d)
include h

theorem extension?_eq : Membership.extension? d.chain =
    (r.membershipExtension?.map (·.value)).or (Membership.extension? c.chain) := by
  rw [Membership.extension?, Credential.chain, h.issuers_eq, List.findSome?_cons,
    h.find?_membershipExtension, Membership.extension?]
  cases r.membershipExtension? <;> rfl

theorem length_certificates_le (hr : r.certificates ≠ []) :
    (Der.Element.sequenceOf AttributeCertificate.toElement r.certificates).content.length ≤
      Der.maxLength :=
  (Der.Element.length_content_le _).trans
    (h.length_value_le (.inr (membershipExtension?_eq_some hr)))

/-- What fits into the proxy with others fits alone. -/
theorem length_sequenceOf_singleton_le {a : AttributeCertificate} (ha : a ∈ r.certificates) :
    (Der.Element.sequenceOf AttributeCertificate.toElement [a]).content.length ≤ Der.maxLength :=
  (Der.Element.length_content_sequenceOf_singleton_le ha).trans
    (h.length_certificates_le (List.ne_nil_of_mem ha))

theorem length_toElement_le {a : AttributeCertificate} (ha : a ∈ r.certificates) :
    a.toElement.content.length ≤ Der.maxLength :=
  Der.length_content_le_of_sequence (h.length_sequenceOf_singleton_le ha) _
    (List.mem_singleton_self _)

/-- A proxy is read for the attribute certificates that it was requested with. If there are none,
those of its issuer count. -/
theorem readChain_eq :
    Membership.readChain d.chain =
      if r.certificates = [] then Membership.readChain c.chain
      else .ok (r.certificates.map fun a => Membership.ofElement a.toElement) := by
  have hextension := h.extension?_eq
  split_ifs with hr
  · have hnone : r.membershipExtension? = none := by simp [membershipExtension?, hr]
    rw [hnone, Option.map_none, Option.none_or] at hextension
    rw [Membership.readChain, Membership.readChain, hextension]
  · rw [membershipExtension?_eq_some hr, Option.map_some, Option.some_or] at hextension
    rw [Membership.readChain_of_extension? hextension (h.length_certificates_le hr), List.map_map]
    rfl

end Issued

end ProxyRequest

/-- The chain of a proxy is read for the attribute certificates that were added to the request, in
order and each as it is read alone, which gives that certificate back or nothing. Without any, it is
read as the chain of the issuer. -/
theorem readChain_of_issue {settings : List ProxyRequest.Setting} {c d : Credential} {now : Duration}
    {key : RsaPrivateKey} {serial : UInt32}
    (h : (ProxyRequest.ofSettings settings).issue c now key serial = .ok d) :
    (ProxyRequest.addedBy settings = [] →
      Membership.readChain d.chain = Membership.readChain c.chain) ∧
    (ProxyRequest.addedBy settings ≠ [] →
      Membership.readChain d.chain =
        .ok ((ProxyRequest.addedBy settings).map fun a => Membership.ofDer a.toDer)) ∧
    ∀ a ∈ ProxyRequest.addedBy settings,
      (∀ chain, Membership.extension? chain =
          some (Der.Element.sequenceOf AttributeCertificate.toElement [a]).encode →
        Membership.readChain chain = .ok [Membership.ofDer a.toDer]) ∧
      (Membership.ofDer a.toDer =
        if Oid.AllReadable a.oids then Membership.ofCertificate a else .error .encoding) ∧
      ∀ m, Membership.ofDer a.toDer = .ok m → m.certificate = a := by
  have hissued := ProxyRequest.issued_of_issue h
  have hread := hissued.readChain_eq
  have hmany := fun a => hissued.length_sequenceOf_singleton_le (a := a)
  have hone := fun a => hissued.length_toElement_le (a := a)
  rw [ProxyRequest.certificates_ofSettings] at hread hmany hone
  refine ⟨fun hnone => ?_, fun hsome => ?_, fun a ha => ⟨fun chain hx => ?_, ?_, fun m hm => ?_⟩⟩
  · rw [hread, if_pos hnone]
  · rw [hread, if_neg hsome, List.map_congr_left fun a ha => Membership.ofDer_toDer (hone a ha)]
  · rw [Membership.readChain_of_extension? hx (hmany a ha), List.map_singleton, List.map_singleton,
      Membership.ofDer_toDer (hone a ha)]
  · rw [Membership.ofDer_toDer (hone a ha), Membership.ofElement_toElement (hone a ha)]
  · rw [Membership.ofDer_toDer (hone a ha), Membership.ofElement_toElement (hone a ha)] at hm
    split_ifs at hm
    exact (Membership.ofCertificate_eq_ok_iff.1 hm).certificate.symm

/-- Settings that add three attribute certificates, of which the second cannot be read back. -/
def Sample.settings : List ProxyRequest.Setting :=
  [.certificate Sample.attributes, .kind .draft, .certificates [Sample.short, Sample.detailed]]

theorem readChain_of_issue_sample :
    ∃ d, (ProxyRequest.ofSettings Sample.settings).issue Sample.credential Sample.moment .mersenne 1 =
        .ok d ∧
      Membership.readChain d.chain =
        .ok [Membership.ofCertificate Sample.attributes, .error .encoding,
          Membership.ofCertificate Sample.detailed] := by
  have hissue : (ProxyRequest.ofSettings Sample.settings).issue Sample.credential Sample.moment
      .mersenne 1 = .ok (Sample.issue (ProxyRequest.ofSettings Sample.settings) Sample.credential 1) :=
    Sample.issue_eq rfl (by decide +kernel) (by decide +kernel) (by decide +kernel)
  obtain ⟨-, hread, halone⟩ := readChain_of_issue hissue
  have hadded : ProxyRequest.addedBy Sample.settings =
      [Sample.attributes, Sample.short, Sample.detailed] := rfl
  simp only [hadded, List.forall_mem_cons] at hread halone
  obtain ⟨⟨-, hfirst, -⟩, ⟨-, hsecond, -⟩, ⟨-, hthird, -⟩, -⟩ := halone
  rw [if_pos (by decide +kernel)] at hfirst hthird
  rw [if_neg (by decide +kernel)] at hsecond
  refine ⟨_, hissue, ?_⟩
  rw [hread (List.cons_ne_nil _ _), List.map_cons, List.map_cons, List.map_singleton, hfirst, hsecond,
    hthird]

end GridAuthz
