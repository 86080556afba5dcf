import GridAuthz.Proofs.Chain.Delegation
import GridAuthz.Proofs.Membership.Embedding
import GridAuthz.Proofs.Validation.Policy

/-!
# Attribute certificates of delegated chains

Of the proxies that are issued one with the other, the last that carries attribute certificates
decides which are found (`readChain_issueAll`), and they are held against the end entity however
many proxies there are (`results_eq_of_accepted`). So further delegation changes nothing about the
results (`results_issueAll`).
-/

namespace GridAuthz

/-- The attribute certificates of the last level that has any. -/
def carriedCertificates (levels : List Issuance) : List AttributeCertificate :=
  ((levels.reverse.map (·.request.certificates)).find? (!·.isEmpty)).getD []

theorem carriedCertificates_append_singleton (levels : List Issuance) (l : Issuance) :
    carriedCertificates (levels ++ [l]) =
      if l.request.certificates = [] then carriedCertificates levels
      else l.request.certificates := by
  rw [carriedCertificates, List.reverse_append, List.reverse_singleton, List.singleton_append,
    List.map_cons]
  split_ifs with h
  · rw [List.find?_cons_of_neg (by simp [h]), carriedCertificates]
  · rw [List.find?_cons_of_pos (by simp [h]), Option.getD_some]

theorem carriedCertificates_singleton (l : Issuance) :
    carriedCertificates [l] = l.request.certificates := by
  rw [← List.nil_append [l], carriedCertificates_append_singleton]
  split_ifs with h
  · rw [h]
    rfl
  · rfl

/-! ### Reading -/

variable {c d : Credential} {levels : List Issuance}

theorem readChain_issueAll (h : c.issueAll levels = .ok d) :
    Membership.readChain d.chain =
      if carriedCertificates levels = [] then Membership.readChain c.chain
      else .ok ((carriedCertificates levels).map fun a => Membership.ofElement a.toElement) := by
  induction levels using List.reverseRecOn generalizing d with
  | nil =>
    cases h
    rfl
  | append_singleton levels l ih =>
    obtain ⟨e, he, hd⟩ := Credential.issueAll_append_singleton_eq_ok_iff.1 h
    rw [(ProxyRequest.issued_of_issue hd).readChain_eq, carriedCertificates_append_singleton]
    split_ifs with hl hlevels
    · rw [ih he, if_pos hlevels]
    · rw [ih he, if_neg hlevels]
    · rfl

/-! ### Results -/

/-- Only the certificate of the end entity matters for the check, not its place. -/
theorem Membership.check_congr (m : Membership) (settings : ValidatorSettings)
    (validator : ChainValidator) (trust : TrustSnapshot) {chain chain' : List Certificate}
    {e e' : Nat} (now : Duration) (h : chain[e]? = chain'[e']?) :
    m.check settings validator trust chain e now = m.check settings validator trust chain' e' now := by
  rw [check, check, checkHolder, checkHolder, h]

variable {anchors : List Certificate} {now : Duration} {E : ValidatedChain}

/-- The results for the chain of an accepted proxy are those for its attribute certificates, checked
against the end entity that issued the first proxy. -/
theorem results_eq_of_accepted (settings : ValidatorSettings) (trust : TrustSnapshot)
    (hend : endEntityIndex? c.chain = some 0) (htexts : c.leaf.subject.HasOnlyTexts)
    (h : c.issueAll levels = .ok d) (hE : validateChain anchors d.chain now = .ok E)
    {read : List (Except Membership.Fault Membership)}
    (hread : Membership.readChain d.chain = .ok read) :
    Validator.results ⟨settings, proxyChainValidator anchors⟩ trust d.chain now =
      .ok (read.map (Validator.resultOf fun m =>
        m.check settings (proxyChainValidator anchors) trust c.chain 0 now)) := by
  have hdelegates := delegates_of_issueAll htexts h
  have hlength := hdelegates.eq_length hend (Chain.validateChain_eq_ok_iff.1 hE).1
  have hverdict : proxyChainValidator anchors d.chain now = .ofExcept (.ok E) := by
    rw [proxyChainValidator, hE]
  rw [Validator.results_eq_of_verdict trust hread hverdict]
  congr 3
  funext m
  refine m.check_congr settings _ trust now ?_
  rw [hlength]
  exact hdelegates.getElem?_add 0

/-- The results for an accepted chain of proxies are the same as those for one proxy that carries
the same attribute certificates. -/
theorem results_issueAll (settings : ValidatorSettings) (trust : TrustSnapshot)
    (hend : endEntityIndex? c.chain = some 0) (htexts : c.leaf.subject.HasOnlyTexts)
    (h : c.issueAll levels = .ok d) (hE : validateChain anchors d.chain now = .ok E) :
    (∀ (l : Issuance) (d₁ : Credential) (E₁ : ValidatedChain), c.issueAll [l] = .ok d₁ →
      validateChain anchors d₁.chain now = .ok E₁ →
      l.request.certificates = carriedCertificates levels →
      Validator.results ⟨settings, proxyChainValidator anchors⟩ trust d.chain now =
        Validator.results ⟨settings, proxyChainValidator anchors⟩ trust d₁.chain now) ∧
    (carriedCertificates levels ≠ [] →
      Validator.results ⟨settings, proxyChainValidator anchors⟩ trust d.chain now =
        .ok ((carriedCertificates levels).map fun a =>
          Validator.resultOf (fun m => m.check settings (proxyChainValidator anchors) trust
            c.chain 0 now) (Membership.ofElement a.toElement))) ∧
    (carriedCertificates levels = [] → Membership.extension? c.chain = none →
      Validator.results ⟨settings, proxyChainValidator anchors⟩ trust d.chain now = .ok []) := by
  have hread := readChain_issueAll h
  refine ⟨fun l d₁ E₁ h₁ hE₁ hl => ?_, fun hcarried => ?_, fun hcarried hnone => ?_⟩
  · have hsame : Membership.readChain d₁.chain = Membership.readChain d.chain := by
      rw [readChain_issueAll h₁, hread, carriedCertificates_singleton, hl]
    cases hd : Membership.readChain d.chain with
    | error error => rw [Validator.results, Validator.results, hsame, hd]
    | ok read =>
      rw [results_eq_of_accepted settings trust hend htexts h hE hd,
        results_eq_of_accepted settings trust hend htexts h₁ hE₁ (hsame.trans hd)]
  · rw [if_neg hcarried] at hread
    rw [results_eq_of_accepted settings trust hend htexts h hE hread, List.map_map]
    rfl
  · have hempty : Membership.readChain c.chain = .ok [] := by rw [Membership.readChain, hnone]
    rw [Validator.results, hread, if_pos hcarried, hempty]

theorem results_issueAll_sample :
    Validator.results ⟨{}, proxyChainValidator [Sample.anchor]⟩ .empty Sample.second.chain
        Sample.moment =
      Validator.results ⟨{}, proxyChainValidator [Sample.anchor]⟩ .empty Sample.first.chain
        Sample.moment ∧
    ∃ r, Validator.results ⟨{}, proxyChainValidator [Sample.anchor]⟩ .empty Sample.second.chain
      Sample.moment = .ok [r] := by
  have hend : endEntityIndex? Sample.credential.chain = some 0 := by decide +kernel
  have hcarried : carriedCertificates Sample.steps = [Sample.attributes] := by decide +kernel
  obtain ⟨E, hE⟩ := Sample.exists_validateChain_second
  obtain ⟨E₁, hE₁⟩ := Sample.exists_validateChain_first
  obtain ⟨hsame, hresults, -⟩ := results_issueAll {} .empty hend (by decide +kernel)
    Sample.issueAll_steps hE
  rw [hcarried] at hsame hresults
  exact ⟨hsame _ _ E₁ Sample.issueAll_firstStep hE₁ rfl, _, hresults (List.cons_ne_nil _ _)⟩

end GridAuthz
