import Mathlib.Data.List.Forall2
import GridAuthz.Proofs.Validation.Policy

/-!
# One result for each element

Whatever is wrong with an attribute certificate, with the extension or with the chain, there is
one result for each element of the extension, and it is about that element alone
(`results_one_per_element`). Those that are accepted are among those that were read, in the same
order.
-/

namespace GridAuthz

namespace Validator

/-- What a result is to say about an element, whatever comes before or after it. -/
structure IsResultFor (verdict : Except ChainError ValidatedChain) (e : Der.Element)
    (r : ValidationResult) : Prop where
  /-- What was read from the element. -/
  membership : r.membership = (Membership.ofElement e).toOption
  /-- What is wrong with a malformed one. -/
  malformed : ∀ fault, Membership.ofElement e = .error fault →
    r.rejections = [⟨.malformed, [fault.message]⟩]
  /-- What is wrong with a chain that is not accepted. -/
  chain : ∀ m error, Membership.ofElement e = .ok m → verdict = .error error →
    r.rejections = [⟨.chain, [error.message]⟩]

variable {v : Validator} {trust : TrustSnapshot} {chain : List Certificate} {now : Duration}
  {verdict : Except ChainError ValidatedChain}

theorem isResultFor_resultOf (e : Der.Element) :
    IsResultFor verdict e
      (resultOf (v.checkIn trust chain now verdict) (Membership.ofElement e)) where
  membership := membership_resultOf _ _
  malformed fault h := by
    rw [h]
    rfl
  chain m error h hverdict := by
    rw [h, hverdict]
    rfl

/-! ### What a chain carries -/

theorem results_eq_nil (h : Membership.extension? chain = none) :
    v.results trust chain now = .ok [] := by
  rw [results, Membership.readChain, h]

theorem results_eq_malformed {bytes : Bytes} (hx : Membership.extension? chain = some bytes)
    (hs : (Der.Element.decode? bytes).bind Der.Element.sequence? = none) :
    v.results trust chain now =
      .ok [⟨none, [⟨.malformed, [Membership.ExtensionError.malformed.message]⟩]⟩] := by
  simp only [results, Membership.readChain, hx, hs]

theorem exists_results_forall₂ (h : v.chainValidator chain now = .ofExcept verdict)
    {bytes : Bytes} {elements : List Der.Element}
    (hx : Membership.extension? chain = some bytes)
    (hs : (Der.Element.decode? bytes).bind Der.Element.sequence? = some elements) :
    ∃ results, v.results trust chain now = .ok results ∧
      List.Forall₂ (IsResultFor verdict) elements results := by
  refine ⟨_, results_eq_of_verdict trust (Membership.readChain_eq_ok hx hs) h, ?_⟩
  rw [List.map_map, List.forall₂_map_right_iff, List.forall₂_same]
  exact fun e _ => isResultFor_resultOf e

theorem results_eq_nil_of_sequence_nil {bytes : Bytes}
    (hx : Membership.extension? chain = some bytes)
    (hs : (Der.Element.decode? bytes).bind Der.Element.sequence? = some []) :
    v.results trust chain now = .ok [] := by
  rw [results, Membership.readChain_eq_ok hx hs, List.map_nil]

theorem exists_results (trust : TrustSnapshot)
    (h : v.chainValidator chain now = .ofExcept verdict) :
    ∃ results, v.results trust chain now = .ok results := by
  cases hx : Membership.extension? chain with
  | none => exact ⟨_, results_eq_nil hx⟩
  | some bytes =>
    cases hs : (Der.Element.decode? bytes).bind Der.Element.sequence? with
    | none => exact ⟨_, results_eq_malformed hx hs⟩
    | some elements =>
      obtain ⟨results, hresults, -⟩ := exists_results_forall₂ h hx hs
      exact ⟨results, hresults⟩

/-! ### Those that are accepted -/

theorem accepted_eq {results : List ValidationResult}
    (h : v.results trust chain now = .ok results) :
    v.accepted trust chain now =
      .ok ((results.filter (·.isValid)).filterMap (·.membership)) := by
  rw [accepted, h, List.filterMap_filter]
  rfl

/-- The results say of each element what is read from it without them. -/
theorem filterMap_membership_eq {results : List ValidationResult} {parsed : List Membership}
    (h : v.chainValidator chain now = .ofExcept verdict)
    (hresults : v.results trust chain now = .ok results)
    (hparsed : Membership.ofChain chain = .ok parsed) :
    results.filterMap (·.membership) = parsed := by
  rw [Membership.ofChain] at hparsed
  cases hread : Membership.readChain chain with
  | error error => simp [hread, Except.map] at hparsed
  | ok read =>
    rw [results_eq_of_verdict trust hread h] at hresults
    rw [hread] at hparsed
    cases hresults
    cases hparsed
    rw [List.filterMap_map]
    exact List.filterMap_congr fun r _ => membership_resultOf _ r

/-- A rejected chain has no valid result. -/
theorem accepted_eq_nil {error : ChainError} (h : v.chainValidator chain now = .rejected error) :
    v.accepted trust chain now = .ok [] := by
  have hinvalid : ∀ read, (resultOf (v.checkIn trust chain now (.error error)) read).isValid = false
    | .error fault => rfl
    | .ok m => by simp [resultOf, checkIn, ValidationResult.ofCheck, ValidationResult.isValid]
  have hverdict : v.chainValidator chain now = .ofExcept (.error error) := h
  obtain ⟨results, hresults⟩ := exists_results trust hverdict
  have hnone : ∀ r ∈ results, r.isValid = false := by
    cases hread : Membership.readChain chain with
    | error fault =>
      rw [Validator.results, hread] at hresults
      cases hresults
      simp [ValidationResult.isValid]
    | ok read =>
      rw [results_eq_of_verdict trust hread hverdict] at hresults
      cases hresults
      simp [hinvalid]
  rw [accepted_eq hresults, List.filter_eq_nil_iff.2 (by simpa using hnone)]
  rfl

/-- Among the results of a chain there is one for each element and no other, and the attribute
certificates that are accepted are those of the valid results, in order. Only if there are elements
does the verdict on the chain matter. -/
theorem results_one_per_element (v : Validator) (trust : TrustSnapshot) (chain : List Certificate)
    (now : Duration) :
    (Membership.extension? chain = none → v.results trust chain now = .ok []) ∧
    (∀ bytes, Membership.extension? chain = some bytes →
      (Der.Element.decode? bytes).bind Der.Element.sequence? = some [] →
        v.results trust chain now = .ok []) ∧
    (∀ bytes, Membership.extension? chain = some bytes →
      (Der.Element.decode? bytes).bind Der.Element.sequence? = none →
        ∃ detail, v.results trust chain now = .ok [⟨none, [⟨.malformed, [detail]⟩]⟩]) ∧
    ∀ verdict : Except ChainError ValidatedChain,
      v.chainValidator chain now = .ofExcept verdict →
      (∀ bytes elements, Membership.extension? chain = some bytes →
        (Der.Element.decode? bytes).bind Der.Element.sequence? = some elements →
          ∃ results, v.results trust chain now = .ok results ∧
            List.Forall₂ (IsResultFor verdict) elements results) ∧
      ∃ results, v.results trust chain now = .ok results ∧
        v.accepted trust chain now =
          .ok ((results.filter (·.isValid)).filterMap (·.membership)) ∧
        (∀ parsed, Membership.ofChain chain = .ok parsed →
          parsed = results.filterMap (·.membership) ∧
          ∀ accepted, v.accepted trust chain now = .ok accepted → accepted.Sublist parsed) ∧
        ∀ error, verdict = .error error → v.accepted trust chain now = .ok [] := by
  refine ⟨results_eq_nil, fun bytes hx hs => results_eq_nil_of_sequence_nil hx hs,
    fun bytes hx hs => ⟨_, results_eq_malformed hx hs⟩, fun verdict h => ?_⟩
  obtain ⟨results, hresults⟩ := exists_results trust h
  refine ⟨fun bytes elements hx hs => exists_results_forall₂ h hx hs, results, hresults,
    accepted_eq hresults, fun parsed hparsed => ?_, ?_⟩
  · have hall := filterMap_membership_eq h hresults hparsed
    refine ⟨hall.symm, fun accepted haccepted => ?_⟩
    cases (accepted_eq hresults).symm.trans haccepted
    rw [← hall]
    exact List.filter_sublist.filterMap _
  · rintro error rfl
    exact accepted_eq_nil h

end Validator

/-! ### A malformed element behind another -/

namespace Sample

/-- The serial number of a certificate. -/
def holderSerial : SerialNumber := ⟨[7], by decide, by decide⟩

/-- An attribute certificate for its holder. -/
def organisationCertificate : AttributeCertificate where
  body := {
    version := 1
    holder := ⟨some ⟨[.directory ⟨[]⟩], holderSerial, none⟩, none⟩
    issuer := .v2 (some [.directory ⟨[]⟩]) none
    signature := ⟨Algorithm.sha256WithRsa, none⟩
    serialNumber := ⟨[11], by decide, by decide⟩
    validity := ⟨⟨1971, 1, 1, 0, 0, 0, by decide⟩, ⟨1972, 1, 1, 0, 0, 0, by decide⟩⟩
    attributes := [⟨AttributeCertificate.fqanAttributeId, .singleton
      (PolicyValues.toElement ⟨some [.uri ⟨"org://host:1", by decide⟩], [.octets [0x2F]]⟩)⟩]
    issuerUniqueId := none
    extensions := none }
  signatureAlgorithm := ⟨Algorithm.sha256WithRsa, none⟩
  signature := .ofBytes []

/-- What it says. -/
def organisation : Membership where
  authority := ⟨"org", "host", 1⟩
  holder := ⟨[]⟩
  holderSerial := holderSerial
  holderSubject := none
  issuer := ⟨[]⟩
  notBefore := organisationCertificate.body.validity.notBefore
  notAfter := organisationCertificate.body.validity.notAfter
  fqans := ["/"]
  genericAttributes := []
  targets := []
  signature := []
  authorityChain := []
  certificate := organisationCertificate

theorem ofElement_organisationCertificate :
    Membership.ofElement organisationCertificate.toElement = .ok organisation := by
  decide +kernel

theorem ofElement_null : Membership.ofElement ⟨.null, []⟩ = .error .encoding := by
  decide +kernel

/-- The certificate of the holder. It carries the attribute certificate, with a NULL behind it. -/
def carrier : Certificate where
  body := {
    version := .v3
    serialNumber := holderSerial
    signature := ⟨Algorithm.sha256WithRsa, none⟩
    issuer := ⟨[]⟩
    validity :=
      ⟨.general ⟨1970, 1, 1, 0, 0, 0, by decide⟩, .general ⟨1980, 1, 1, 0, 0, 0, by decide⟩⟩
    subject := ⟨[]⟩
    publicKey := ⟨⟨Algorithm.rsaEncryption, none⟩, .ofBytes []⟩
    issuerUniqueId := none
    subjectUniqueId := none
    extensions := some [⟨Membership.extensionId, false,
      (Der.Element.sequence [organisationCertificate.toElement, ⟨.null, []⟩]).encode⟩] }
  signatureAlgorithm := ⟨Algorithm.sha256WithRsa, none⟩
  signature := .ofBytes []

theorem length_carrier_le :
    (Der.Element.encodeAll [organisationCertificate.toElement, ⟨.null, []⟩]).length ≤
      Der.maxLength := by
  decide +kernel

/-- A validator that rejects every chain. -/
def strict : Validator := ⟨{}, fun _ _ => .rejected .empty⟩

end Sample

theorem Validator.results_one_per_element_sample :
    ∃ results, Sample.strict.results .empty [Sample.carrier] (.ofSeconds 0) = .ok results ∧
      results.map (·.membership) = [some Sample.organisation, none] ∧
      results.map (fun r => r.rejections.map (·.reason)) = [[.chain], [.malformed]] ∧
      Sample.strict.accepted .empty [Sample.carrier] (.ofSeconds 0) = .ok [] := by
  obtain ⟨-, -, -, hjudged⟩ :=
    results_one_per_element Sample.strict .empty [Sample.carrier] (.ofSeconds 0)
  obtain ⟨hfor, -, -, -, -, hnone⟩ := hjudged (.error .empty) rfl
  obtain ⟨results, hresults, hfor⟩ :=
    hfor _ _ rfl (Der.Element.decode?_encode_bind_sequence? Sample.length_carrier_le)
  obtain ⟨r, rest, hr, hrest, rfl⟩ := List.forall₂_cons_left_iff.1 hfor
  obtain ⟨r', rest', hr', hrest', rfl⟩ := List.forall₂_cons_left_iff.1 hrest
  cases List.forall₂_nil_left_iff.1 hrest'
  refine ⟨_, hresults, ?_, ?_, hnone _ rfl⟩
  · rw [List.map_cons, List.map_singleton, hr.membership, hr'.membership,
      Sample.ofElement_organisationCertificate, Sample.ofElement_null]
    rfl
  · rw [List.map_cons, List.map_singleton,
      hr.chain _ _ Sample.ofElement_organisationCertificate rfl,
      hr'.malformed _ Sample.ofElement_null]
    rfl

end GridAuthz
