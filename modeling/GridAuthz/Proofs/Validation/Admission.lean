import GridAuthz.Proofs.AttributeCertificate.ReadBack
import GridAuthz.Proofs.Chain.Delegation
import GridAuthz.Proofs.Validation.Diagnostics
import GridAuthz.Proofs.Validation.Results

/-!
# Which memberships are returned

A membership is returned for a chain if and only if the chain carries it and the policy accepts it
(`Validator.mem_accepted_iff`). So what holds of all returned memberships can be shown from how they
are read and from the policy, without the results that they come from.
-/

namespace GridAuthz

/-- One of the attribute certificates of a chain says what the membership does. -/
def Membership.IsCarriedBy (m : Membership) (chain : List Certificate) : Prop :=
  ∃ read, readChain chain = .ok read ∧ .ok m ∈ read

theorem Membership.IsCarriedBy.isReadFrom {m : Membership} {chain : List Certificate}
    (h : m.IsCarriedBy chain) : m.IsReadFrom m.certificate := by
  obtain ⟨read, hread, hm⟩ := h
  rw [readChain] at hread
  split at hread
  case h_1 =>
    cases hread
    simp at hm
  case h_2 =>
    split at hread
    case h_1 elements _ =>
      cases hread
      obtain ⟨e, -, he⟩ := List.mem_map.1 hm
      exact ofCertificate_eq_ok_iff.1 (ofElement_eq_ok_iff.1 he).2
    case h_2 => cases hread

namespace Validator

variable {v : Validator} {trust : TrustSnapshot} {chain : List Certificate} {now : Duration}
  {m : Membership} {accepted : List Membership}

theorem mem_accepted_iff_of_verdict {read : List (Except Membership.Fault Membership)}
    {verdict : Except ChainError ValidatedChain} (hread : Membership.readChain chain = .ok read)
    (hverdict : v.chainValidator chain now = .ofExcept verdict)
    (h : v.accepted trust chain now = .ok accepted) :
    m ∈ accepted ↔ .ok m ∈ read ∧ v.Accepts trust chain now m := by
  rw [Validator.accepted, results_eq_of_verdict trust hread hverdict] at h
  cases h
  simp only [List.mem_filterMap, List.mem_map, exists_exists_and_eq_and, valid?_resultOf hverdict,
    Option.filter_eq_some_iff, decide_eq_true_eq]
  constructor
  · rintro ⟨r, hr, hm, haccepts⟩
    cases r with
    | error fault => cases hm
    | ok m' =>
      cases hm
      exact ⟨hr, haccepts⟩
  · rintro ⟨hm, haccepts⟩
    exact ⟨.ok m, hm, rfl, haccepts⟩

/-- A membership is returned if and only if the chain carries it and the policy accepts it. -/
theorem mem_accepted_iff (h : v.accepted trust chain now = .ok accepted) :
    m ∈ accepted ↔ m.IsCarriedBy chain ∧ v.Accepts trust chain now m := by
  cases hread : Membership.readChain chain with
  | error error =>
    rw [Validator.accepted, results, hread] at h
    cases h
    simp [Membership.IsCarriedBy, hread, ValidationResult.valid?, ValidationResult.isValid]
  | ok read =>
    simp only [Membership.IsCarriedBy, hread, Except.ok.injEq, exists_eq_left']
    rcases verdict_cases v.chainValidator chain now with ⟨verdict, hverdict⟩ | ⟨reason, haborted⟩
    · exact mem_accepted_iff_of_verdict hread hverdict h
    · -- validation that breaks off gives results only if there is nothing to judge
      cases read with
      | nil =>
        rw [Validator.accepted, results, hread] at h
        cases h
        simp
      | cons r rs =>
        rw [Validator.accepted, results_eq_of_aborted trust hread haborted] at h
        cases h

theorem exists_accepted (hm : m.IsCarriedBy chain) (h : v.Accepts trust chain now m) :
    ∃ accepted, v.accepted trust chain now = .ok accepted ∧ m ∈ accepted := by
  obtain ⟨validated, c, hvalidated, -⟩ := h.holder
  have hverdict : v.chainValidator chain now = .ofExcept (.ok validated) := hvalidated
  obtain ⟨results, hresults⟩ := exists_results trust hverdict
  have haccepted := accepted_eq hresults
  exact ⟨_, haccepted, (mem_accepted_iff haccepted).2 ⟨hm, h⟩⟩

/-! ### Other chains -/

/-- A chain validator accepts two chains with the same end entity. -/
def SameEndEntity (v : Validator) (now : Duration) (chain chain' : List Certificate) : Prop :=
  ∃ validated validated', v.chainValidator chain now = .accepted validated ∧
    v.chainValidator chain' now = .accepted validated' ∧
    chain[validated.endEntity]? = chain'[validated'.endEntity]?

/-- What is accepted in a chain is returned for every other one of the same end entity that
carries it. -/
theorem exists_accepted_of_sameEndEntity {chain' : List Certificate}
    (h : v.Accepts trust chain now m) (hsame : v.SameEndEntity now chain chain')
    (hm : m.IsCarriedBy chain') :
    ∃ accepted, v.accepted trust chain' now = .ok accepted ∧ m ∈ accepted := by
  obtain ⟨validated, c, hvalidated, hc, hheld⟩ := h.holder
  obtain ⟨_, validated', hvalidated₂, hvalidated', hend⟩ := hsame
  cases hvalidated.symm.trans hvalidated₂
  have hc' : chain'[validated'.endEntity]? = some c := hend ▸ hc
  exact exists_accepted hm
    ⟨⟨validated', c, hvalidated', hc', hheld⟩, h.current, h.authority, h.target⟩

end Validator

/-! ### Signed attribute certificates -/

namespace Sample

/-- The certificate of an attribute authority. -/
def server : Certificate := sign (body "authority" "server")

/-- The authority is known. -/
def trust : TrustSnapshot := ⟨[server], .empty, []⟩

/-- What the authority says of the end entity. -/
def membershipBody : AcBody :=
  { organisationCertificate.body with
    holder := ⟨some ⟨[.directory (body "authority" "user").issuer],
      (body "authority" "user").serialNumber, none⟩, none⟩
    issuer := .v2 (some [.directory server.subject]) none
    signature := ProxyRequest.signatureAlgorithm
    validity := attributes.body.validity }

/-- An attribute certificate that the authority has signed. -/
def attest (b : AcBody) : AttributeCertificate where
  body := b
  signatureAlgorithm := ProxyRequest.signatureAlgorithm
  signature := .ofBytes ((RsaPrivateKey.mersenne.sign? .sha256 b.toElement.encode).getD [])

/-- The body of a certificate of the end entity that carries the elements of an extension. -/
def carrierBody (elements : List Der.Element) : CertificateBody :=
  { body "authority" "user" with
    extensions := some [⟨Membership.extensionId, false, (Der.Element.sequence elements).encode⟩] }

/-- The certificate that carries one attribute certificate. -/
def carrying (c : AttributeCertificate) : Certificate := sign (carrierBody [c.toElement])

/-- All steps but that of the signature pass for what a certificate carries. -/
def suits (settings : ValidatorSettings) (c : Certificate) (m : Membership) : Bool :=
  m.checkPeriod settings.clockSkew moment = .ok () && m.isHeldBy c &&
    server.subject.agrees m.issuer && m.checkTargets settings.localHost = .ok ()

theorem isSignedBy_server {m : Membership} {b : AcBody} (h : m.certificate = attest b) :
    m.IsSignedBy server := by
  have hkey : RsaPrivateKey.mersenne.isKeyOf server = true := by decide +kernel
  rw [Membership.IsSignedBy, h]
  exact exists_verifies b.toElement.encode hkey

theorem length_attest_le {b : AcBody} (hlen : b.toElement.encode.length ≤ 4096) :
    (attest b).toElement.content.length ≤ 8192 :=
  length_signed_le hlen

theorem length_toElement_attest_le {b : AcBody} (hlen : b.toElement.encode.length ≤ 4096) :
    (attest b).toElement.encode.length ≤ 8198 := by
  have hshort := length_attest_le hlen
  exact (Der.Element.length_encode_le (hshort.trans (by decide))).trans
    (Nat.add_le_add_right hshort 6)

/-- What the authority attests is read for what it says. -/
theorem ofElement_attest {b : AcBody} (hoids : Oid.AllReadable b.oids)
    (hlen : b.toElement.encode.length ≤ 4096) :
    AttributeCertificate.ofElement? (attest b).toElement = some (attest b) := by
  have hcontent : (attest b).toElement.content.length ≤ Der.maxLength :=
    (length_attest_le hlen).trans (by decide)
  have halgorithm : Oid.AllReadable ProxyRequest.signatureAlgorithm.oids := by decide
  have hreadable : Oid.AllReadable (attest b).oids := Oid.allReadable_append.2 ⟨hoids, halgorithm⟩
  exact (AttributeCertificate.readsBackOn (attest b) hcontent _).2 ⟨hreadable, rfl⟩

/-- The attribute certificate is all that the chain carries. -/
theorem readChain_carrying {b : AcBody} (hoids : Oid.AllReadable b.oids)
    (hlen : b.toElement.encode.length ≤ 4096) :
    Membership.readChain [carrying (attest b)] = .ok [Membership.ofCertificate (attest b)] := by
  have hshort := length_toElement_attest_le hlen
  have hall : (Der.Element.encodeAll [(attest b).toElement]).length ≤ Der.maxLength := by
    rw [Der.Element.encodeAll_singleton, Der.maxLength]
    omega
  rw [Membership.readChain_of_extension? rfl hall, List.map_singleton, Membership.ofElement,
    ofElement_attest hoids hlen]
  rfl

/-- A validator that knows the trust anchor. -/
def validator (settings : ValidatorSettings) : Validator := ⟨settings, proxyChainValidator [anchor]⟩

/-- The chain of the end entity is accepted, whatever it carries. -/
theorem chainValidator_sign_carrierBody (settings : ValidatorSettings)
    (elements : List Der.Element) :
    (validator settings).chainValidator [sign (carrierBody elements)] moment =
      .accepted (Chain.verdict (sign (carrierBody elements)) [] 0) := by
  have hvalid : credential.leaf.notBefore ≤ moment ∧ moment ≤ credential.leaf.notAfter := by
    decide +kernel
  have htexts : credential.leaf.issuer.HasOnlyTexts := by decide +kernel
  have hchain : validateChain [anchor] [sign (carrierBody elements)] moment =
      .ok (Chain.verdict (sign (carrierBody elements)) [] 0) :=
    validateChain_sign hvalid (Name.agrees_self_iff.2 htexts) rfl
  have hvalidator : (validator settings).chainValidator = proxyChainValidator [anchor] := rfl
  rw [hvalidator, proxyChainValidator, hchain]
  rfl

/-- What the authority attests is accepted if nothing else speaks against it. -/
theorem exists_accepts_attest (settings : ValidatorSettings) (elements : List Der.Element)
    {b : AcBody} (hsuits : (Membership.ofCertificate (attest b)).toOption.any
      (suits settings (sign (carrierBody elements))) = true) :
    ∃ m, Membership.ofCertificate (attest b) = .ok m ∧ m.certificate = attest b ∧
      (validator settings).Accepts trust [sign (carrierBody elements)] moment m := by
  cases hm : Membership.ofCertificate (attest b) with
  | error fault => simp [hm, Except.toOption] at hsuits
  | ok m =>
    rw [hm] at hsuits
    simp only [Except.toOption, Option.any_some, suits, Bool.and_eq_true,
      decide_eq_true_eq] at hsuits
    obtain ⟨⟨⟨hperiod, hholder⟩, hissuer⟩, htarget⟩ := hsuits
    have hcertificate := (Membership.ofCertificate_eq_ok_iff.1 hm).certificate.symm
    have hserver : server.notBefore ≤ moment ∧ moment ≤ server.notAfter := by decide +kernel
    exact ⟨m, rfl, hcertificate, {
      holder := ⟨_, _, chainValidator_sign_carrierBody settings elements, List.getElem?_cons_zero,
        Membership.isHeldBy_iff.1 hholder⟩
      current := Membership.checkPeriod_eq_ok_iff.1 hperiod
      authority := .inl ⟨server, List.mem_singleton_self _, hissuer, hserver,
        isSignedBy_server hcertificate⟩
      target := Membership.checkTargets_eq_ok_iff.1 htarget }⟩

theorem exists_accepted_attest (settings : ValidatorSettings) {b : AcBody}
    (hoids : Oid.AllReadable b.oids) (hlen : b.toElement.encode.length ≤ 4096)
    (hsuits : (Membership.ofCertificate (attest b)).toOption.any
      (suits settings (carrying (attest b))) = true) :
    ∃ accepted m, (validator settings).accepted trust [carrying (attest b)] moment = .ok accepted ∧
      m ∈ accepted ∧ m.certificate = attest b := by
  obtain ⟨m, hm, hcertificate, haccepts⟩ := exists_accepts_attest settings _ hsuits
  have hread := readChain_carrying hoids hlen
  rw [hm] at hread
  obtain ⟨accepted, haccepted, hmem⟩ :=
    Validator.exists_accepted ⟨_, hread, List.mem_singleton_self _⟩ haccepts
  exact ⟨accepted, m, haccepted, hmem, hcertificate⟩

/-! ### A malformed element before an accepted one -/

/-- A NULL, and an attribute certificate of the authority behind it. -/
def mixedElements : List Der.Element := [⟨.null, []⟩, (attest membershipBody).toElement]

theorem length_mixedElements_le : (Der.Element.encodeAll mixedElements).length ≤ Der.maxLength := by
  have hshort := length_toElement_attest_le (b := membershipBody) (by decide +kernel)
  have hnull : (Der.Element.encode ⟨.null, []⟩).length = 2 := rfl
  rw [mixedElements, Der.Element.encodeAll_cons, Der.Element.encodeAll_singleton,
    List.length_append, hnull, Der.maxLength]
  omega

theorem filterMap_ofElement_null {e : Der.Element} {m : Membership}
    (h : Membership.ofElement e = .ok m) :
    [⟨.null, []⟩, e].filterMap (fun e => (Membership.ofElement e).toOption) = [m] := by
  simp [ofElement_null, h, Except.toOption]

end Sample

theorem Validator.results_valid_iff_accepts_sample :
    ∃ results m, (Sample.validator {}).results Sample.trust
        [Sample.sign (Sample.carrierBody Sample.mixedElements)] Sample.moment = .ok results ∧
      (¬∃ r, results[0]? = some r ∧ r.isValid = true) ∧
      (∃ r, results[1]? = some r ∧ r.isValid = true) ∧
      m.certificate = Sample.attest Sample.membershipBody ∧
      (Sample.validator {}).accepted Sample.trust
        [Sample.sign (Sample.carrierBody Sample.mixedElements)] Sample.moment = .ok [m] := by
  obtain ⟨hvalid, haccepted⟩ :=
    results_valid_iff_accepts (Sample.validator {}) Sample.trust
      [Sample.sign (Sample.carrierBody Sample.mixedElements)] Sample.moment rfl
      (Der.Element.decode?_encode_bind_sequence? Sample.length_mixedElements_le)
  obtain ⟨m, hm, hcertificate, haccepts⟩ :=
    Sample.exists_accepts_attest {} Sample.mixedElements (b := Sample.membershipBody)
      (by decide +kernel)
  have hread : AttributeCertificate.ofElement? (Sample.attest Sample.membershipBody).toElement =
      some m.certificate := by
    rw [hcertificate]
    exact Sample.ofElement_attest (by decide +kernel) (by decide +kernel)
  rw [← hcertificate] at hm
  obtain ⟨results, hresults, hsecond⟩ := (hvalid 1 _ rfl).2 ⟨m, hread, hm, haccepts⟩
  refine ⟨results, m, hresults, fun hfirst => ?_, hsecond, hcertificate, ?_⟩
  · obtain ⟨m', hread', hm', -⟩ := (hvalid 0 ⟨.null, []⟩ rfl).1 ⟨results, hresults, hfirst⟩
    have hnull := Membership.ofElement_eq_ok_iff.2 ⟨hread', hm'⟩
    rw [Sample.ofElement_null] at hnull
    cases hnull
  · have hparsed : Sample.mixedElements.filterMap (fun e => (Membership.ofElement e).toOption) =
        [m] :=
      Sample.filterMap_ofElement_null (Membership.ofElement_eq_ok_iff.2 ⟨hread, hm⟩)
    rcases haccepted with haccepted | ⟨-, reason, haborted, -⟩
    · rw [haccepted, hparsed, List.filter_cons_of_pos (by simpa using haccepts), List.filter_nil]
    · rw [Sample.chainValidator_sign_carrierBody] at haborted
      cases haborted

end GridAuthz
