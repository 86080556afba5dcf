import GridAuthz.Proofs.Validation.Authority
import GridAuthz.Proofs.Validation.Results

/-!
# Why an attribute certificate is rejected

The first step that fails decides the reasons, and they do not depend on what only later steps look
at (`Examination.diagnostics`). Only the search for the authority can give more than one reason:
when neither a certificate nor an LSC file is found, or one reason for each certificate of the
authority when none of them can be used.
-/

namespace GridAuthz

/-! ### Steps -/

/-- A step of the check of an attribute certificate. -/
inductive CheckStep where
  /-- The moment is within the validity. -/
  | period
  /-- The holder is the end entity of the chain. -/
  | holder
  /-- The signature is one of a trusted authority. -/
  | authority
  /-- The attributes are meant for this host. -/
  | targets
  deriving DecidableEq

namespace CheckStep

/-- The steps in their order. -/
def all : List CheckStep := [period, holder, authority, targets]

/-- The steps in front of a step. -/
def earlier (s : CheckStep) : List CheckStep := all.takeWhile (· ≠ s)

theorem mem_all (s : CheckStep) : s ∈ all := by
  cases s <;> decide

/-- The reasons that a step can give. -/
def reasons : CheckStep → List RejectionReason
  | period => [.outsideValidity]
  | holder => [.holder, .unexpected]
  | authority => [.authorityNotFound, .lscNotFound] ++ Membership.chainReasons
  | targets => [.target]

end CheckStep

/-! ### Examinations -/

/-- A well formed attribute certificate at some place of a chain that is accepted, and with what it
is examined. -/
structure Examination where
  /-- The validator with its settings. -/
  validator : Validator
  /-- What is in the trust directories. -/
  trust : TrustSnapshot
  /-- The chain. -/
  chain : List Certificate
  /-- The moment. -/
  now : Duration
  /-- The place in the extension. -/
  place : Nat
  /-- What the attribute certificate says. -/
  membership : Membership
  /-- The verdict on the chain. -/
  verdict : ValidatedChain
  /-- The attribute certificate is read from that place. -/
  isRead : ∃ read, Membership.readChain chain = .ok read ∧ read[place]? = some (.ok membership)
  /-- The chain is accepted. -/
  isAccepted : validator.chainValidator chain now = .accepted verdict

namespace Examination

variable (x y : Examination)

/-- The reasons that the validator gives. -/
def Reports (rejections : List Rejection) : Prop :=
  ∃ results, x.validator.results x.trust x.chain x.now = .ok results ∧
    results[x.place]? = some ⟨some x.membership, rejections⟩

/-- What a step asks for. -/
def Passes : CheckStep → Prop
  | .period => x.membership.IsCurrent x.validator.settings.clockSkew x.now
  | .holder => ∃ c, x.chain[x.verdict.endEntity]? = some c ∧ x.membership.IsHeldBy c
  | .authority => x.membership.IsFromKnownAuthority x.trust x.now ∨
    x.membership.IsFromListedAuthority x.validator.chainValidator x.trust x.now
  | .targets => x.membership.IsMeantFor x.validator.settings.localHost

/-- All steps before this one pass, and it does not. -/
def FailsFirstAt (s : CheckStep) : Prop := (∀ t ∈ s.earlier, x.Passes t) ∧ ¬x.Passes s

/-- What a step looks at is the same in two examinations. -/
def SameFor : CheckStep → Prop
  | .period => x.now = y.now ∧
    x.validator.settings.clockSkew = y.validator.settings.clockSkew ∧
    x.membership.notBefore = y.membership.notBefore ∧
    x.membership.notAfter = y.membership.notAfter
  | .holder => x.membership.holder = y.membership.holder ∧
    x.membership.holderSerial = y.membership.holderSerial ∧
    x.membership.holderSubject = y.membership.holderSubject ∧
    x.chain[x.verdict.endEntity]?.map (fun c => (c.issuer, c.body.serialNumber, c.subject)) =
      y.chain[y.verdict.endEntity]?.map fun c => (c.issuer, c.body.serialNumber, c.subject)
  | .authority => x.now = y.now ∧ x.trust = y.trust ∧
    x.validator.chainValidator = y.validator.chainValidator ∧
    x.membership.issuer = y.membership.issuer ∧
    x.membership.vo = y.membership.vo ∧ x.membership.host = y.membership.host ∧
    x.membership.authorityChain = y.membership.authorityChain ∧
    ∀ key, x.membership.isSignedWith key = y.membership.isSignedWith key
  | .targets => x.membership.targets = y.membership.targets ∧
    x.validator.settings.localHost = y.validator.settings.localHost

/-- What a step finds. -/
def outcome : CheckStep → CheckResult
  | .period => x.membership.checkPeriod x.validator.settings.clockSkew x.now
  | .holder => x.membership.checkHolder x.chain x.verdict.endEntity
  | .authority => x.membership.checkSignature x.validator.chainValidator x.trust x.now
  | .targets => x.membership.checkTargets x.validator.settings.localHost

variable {x y}

/-! ### One step -/

theorem outcome_eq_ok_iff {s : CheckStep} : x.outcome s = .ok () ↔ x.Passes s := by
  cases s with
  | period => exact Membership.checkPeriod_eq_ok_iff
  | holder => exact Membership.checkHolder_eq_ok_iff
  | authority => exact Membership.checkSignature_eq_ok_iff
  | targets => exact Membership.checkTargets_eq_ok_iff

/-- Only the search for the authority may give several reasons, and that validation broke off is a
reason only if there is no end entity. -/
theorem exists_rejection {s : CheckStep} {rs : List Rejection} (hs : s ≠ .authority)
    (h : x.outcome s = .error rs) : ∃ r, rs = [r] ∧ r.reason ∈ s.reasons ∧
      (r.reason = .unexpected → x.chain[x.verdict.endEntity]? = none) := by
  cases s with
  | period =>
    rw [outcome, Membership.checkPeriod] at h
    split_ifs at h
    cases h
    simp [CheckStep.reasons]
  | holder =>
    rw [outcome, Membership.checkHolder] at h
    split at h
    case h_1 hnone =>
      cases h
      simp [CheckStep.reasons, hnone]
    case h_2 =>
      split_ifs at h
      cases h
      simp [CheckStep.reasons]
  | authority => exact absurd rfl hs
  | targets =>
    rw [outcome, Membership.checkTargets] at h
    split_ifs at h
    cases h
    simp [CheckStep.reasons]

theorem isAuthorityFailure {rs : List Rejection} (h : x.outcome .authority = .error rs) :
    x.membership.IsAuthorityFailure x.validator.chainValidator x.trust x.now rs :=
  Membership.isAuthorityFailure_of_checkSignature h

theorem reason_mem_reasons {s : CheckStep} {rs : List Rejection} (h : x.outcome s = .error rs) :
    ∀ r ∈ rs, r.reason ∈ s.reasons := by
  by_cases hs : s = .authority
  · subst hs
    intro r hr
    cases isAuthorityFailure h with
    | signature =>
      rw [List.mem_singleton.1 hr]
      simp [CheckStep.reasons, Membership.chainReasons, Membership.signatureRejection]
    | unusable _ _ habout =>
      rw [Membership.reason_eq_of_forall₂ habout r hr]
      decide
    | unknown =>
      rcases List.mem_pair.1 hr with rfl | rfl <;> simp [CheckStep.reasons]
    | listed _ _ hreason =>
      rw [List.mem_singleton.1 hr]
      exact List.mem_append_right _ hreason
  · obtain ⟨r, rfl, hr, -⟩ := exists_rejection hs h
    simpa using hr

/-- A step looks at nothing else. -/
theorem outcome_eq_of_sameFor {s : CheckStep} (h : x.SameFor y s) : x.outcome s = y.outcome s := by
  cases s with
  | period =>
    obtain ⟨hnow, hskew, hbefore, hafter⟩ := h
    simp only [outcome, Membership.checkPeriod, hnow, hskew, hbefore, hafter]
  | holder =>
    obtain ⟨hholder, hserial, hsubject, hend⟩ := h
    simp only [outcome, Membership.checkHolder]
    cases hx : x.chain[x.verdict.endEntity]? with
    | none =>
      rw [hx, Option.map_none, eq_comm, Option.map_eq_none_iff] at hend
      rw [hend]
    | some c =>
      rw [hx, Option.map_some, eq_comm, Option.map_eq_some_iff] at hend
      obtain ⟨d, hd, heq⟩ := hend
      simp only [Prod.mk.injEq] at heq
      obtain ⟨hissuer, hnumber, hname⟩ := heq
      rw [hd]
      simp only [Membership.isHeldBy, hholder, hserial, hsubject, hissuer, hnumber, hname]
  | authority =>
    obtain ⟨hnow, htrust, hvalidator, hissuer, hvo, hhost, hchain, hsigned⟩ := h
    have hsigned : x.membership.isSignedWith = y.membership.isSignedWith := funext hsigned
    simp only [outcome, Membership.checkSignature, Membership.checkKnownAuthority,
      Membership.checkListedAuthority, Membership.signatureRejection, hnow, htrust, hvalidator,
      hissuer, hvo, hhost, hchain, hsigned]
  | targets =>
    obtain ⟨htargets, hhost⟩ := h
    simp only [outcome, Membership.checkTargets, htargets, hhost]

/-! ### All steps -/

/-- The check goes through the steps in their order. -/
theorem check_eq_forM :
    x.membership.check x.validator.settings x.validator.chainValidator x.trust x.chain
      x.verdict.endEntity x.now = forM CheckStep.all x.outcome := by
  simp only [Membership.check, CheckStep.all, List.forM_cons, List.forM_nil, outcome,
    bind_pure_unit]

theorem reports_iff {rejections : List Rejection} :
    x.Reports rejections ↔
      forM CheckStep.all x.outcome = .ok () ∧ rejections = [] ∨
      forM CheckStep.all x.outcome = .error rejections := by
  obtain ⟨read, hread, hplace⟩ := x.isRead
  have hverdict : x.validator.chainValidator x.chain x.now = .ofExcept (.ok x.verdict) :=
    x.isAccepted
  have hresults := Validator.results_eq_of_verdict x.trust hread hverdict
  have hresult : (read.map (Validator.resultOf
      (x.validator.checkIn x.trust x.chain x.now (.ok x.verdict))))[x.place]? =
      some (.ofCheck x.membership (forM CheckStep.all x.outcome)) := by
    rw [List.getElem?_map, hplace, ← check_eq_forM]
    rfl
  simp only [Reports, hresults, Except.ok.injEq, exists_eq_left', hresult, Option.some.injEq]
  cases forM CheckStep.all x.outcome with
  | ok => simp [ValidationResult.ofCheck, eq_comm]
  | error rs => simp [ValidationResult.ofCheck]

theorem reports_iff_of_passes (h : ∀ s, x.Passes s) {rejections : List Rejection} :
    x.Reports rejections ↔ rejections = [] := by
  have hall : forM CheckStep.all x.outcome = .ok () :=
    forM_eq_ok_iff.2 fun s _ => outcome_eq_ok_iff.2 (h s)
  simp [reports_iff, hall]

theorem FailsFirstAt.exists_outcome_eq {s : CheckStep} (h : x.FailsFirstAt s) :
    ∃ rs, x.outcome s = .error rs := by
  cases hfail : x.outcome s with
  | ok => exact absurd (outcome_eq_ok_iff.1 hfail) h.2
  | error rs => exact ⟨rs, rfl⟩

theorem FailsFirstAt.forM_eq {s : CheckStep} (h : x.FailsFirstAt s) :
    forM CheckStep.all x.outcome = x.outcome s := by
  obtain ⟨rs, hfail⟩ := h.exists_outcome_eq
  rw [hfail]
  exact forM_eq_error_iff.2 ⟨s, s.mem_all, fun t ht => outcome_eq_ok_iff.2 (h.1 t ht), hfail⟩

theorem FailsFirstAt.reports_iff {s : CheckStep} (h : x.FailsFirstAt s)
    {rejections : List Rejection} : x.Reports rejections ↔ x.outcome s = .error rejections := by
  obtain ⟨rs, hfail⟩ := h.exists_outcome_eq
  simp [Examination.reports_iff, h.forM_eq, hfail]

/-- A step that fails gives a reason. -/
theorem FailsFirstAt.ne_nil {s : CheckStep} (h : x.FailsFirstAt s) {rejections : List Rejection}
    (hreports : x.Reports rejections) : rejections ≠ [] := by
  rintro rfl
  have hcheck := check_eq_forM.trans (h.forM_eq.trans (h.reports_iff.1 hreports))
  exact Membership.check_ne_error_nil _ _ _ _ _ _ _ hcheck

/-- If not all steps pass, there is a first one that does not. -/
theorem exists_failsFirstAt (h : ¬∀ s, x.Passes s) : ∃ s, x.FailsFirstAt s := by
  cases hall : forM CheckStep.all x.outcome with
  | ok => exact absurd (fun s => outcome_eq_ok_iff.1 (forM_eq_ok_iff.1 hall s s.mem_all)) h
  | error rs =>
    obtain ⟨s, -, hearlier, hs⟩ := forM_eq_error_iff.1 hall
    refine ⟨s, fun t ht => outcome_eq_ok_iff.1 (hearlier t ht), fun hpass => ?_⟩
    rw [outcome_eq_ok_iff.2 hpass] at hs
    cases hs

theorem passes_iff_of_sameFor {s : CheckStep} (h : x.SameFor y s) : x.Passes s ↔ y.Passes s := by
  rw [← outcome_eq_ok_iff, ← outcome_eq_ok_iff, outcome_eq_of_sameFor h]

/-- What later steps look at does not matter. -/
theorem FailsFirstAt.of_sameFor {s : CheckStep} (h : x.FailsFirstAt s)
    (hearlier : ∀ t ∈ s.earlier, x.SameFor y t) (hs : x.SameFor y s) : y.FailsFirstAt s :=
  ⟨fun t ht => (passes_iff_of_sameFor (hearlier t ht)).1 (h.1 t ht),
    fun hpass => h.2 ((passes_iff_of_sameFor hs).2 hpass)⟩

/-! ### The chain validator that knows proxies -/

theorem proxyChainValidator_eq_accepted_iff {anchors chain : List Certificate} {now : Duration}
    {v : ValidatedChain} : proxyChainValidator anchors chain now = .accepted v ↔
      validateChain anchors chain now = .ok v := by
  rw [proxyChainValidator]
  cases validateChain anchors chain now <;> simp [ChainVerdict.ofExcept]

theorem proxyChainValidator_ne_aborted (anchors chain : List Certificate) (now : Duration)
    (reason : String) : proxyChainValidator anchors chain now ≠ .aborted reason := by
  rw [proxyChainValidator]
  cases validateChain anchors chain now <;> simp [ChainVerdict.ofExcept]

/-- Its verdict says where the end entity is, and it never breaks off. -/
theorem reason_ne_unexpected {anchors : List Certificate}
    (h : x.validator.chainValidator = proxyChainValidator anchors) {s : CheckStep}
    {rs : List Rejection} (hfail : x.outcome s = .error rs) :
    ∀ r ∈ rs, r.reason ≠ .unexpected := by
  intro r hr hreason
  by_cases hs : s = .authority
  · subst hs
    cases isAuthorityFailure hfail with
    | signature => simp [List.mem_singleton.1 hr, Membership.signatureRejection] at hreason
    | unusable _ _ habout =>
      simp [Membership.reason_eq_of_forall₂ habout r hr] at hreason
    | unknown => rcases List.mem_pair.1 hr with rfl | rfl <;> cases hreason
    | listed _ _ _ haborted =>
      rw [List.mem_singleton.1 hr] at hreason
      obtain ⟨reason, haborted⟩ := haborted hreason
      rw [h] at haborted
      exact proxyChainValidator_ne_aborted _ _ _ _ haborted
  · obtain ⟨r', rfl, -, hend⟩ := exists_rejection hs hfail
    rw [List.mem_singleton.1 hr] at hreason
    have haccepted := x.isAccepted
    rw [h, proxyChainValidator_eq_accepted_iff, Chain.validateChain_eq_ok_iff] at haccepted
    have hlt := haccepted.1.endEntity_lt
    exact absurd (List.getElem?_eq_none_iff.1 (hend hreason)) (by omega)

theorem check_ne_unexpected {anchors : List Certificate}
    (h : x.validator.chainValidator = proxyChainValidator anchors) {rs : List Rejection}
    (hcheck : x.membership.check x.validator.settings x.validator.chainValidator x.trust x.chain
      x.verdict.endEntity x.now = .error rs) : ∀ r ∈ rs, r.reason ≠ .unexpected := by
  rw [check_eq_forM] at hcheck
  obtain ⟨s, -, -, hs⟩ := forM_eq_error_iff.1 hcheck
  exact reason_ne_unexpected h hs

/-- So no result says that validation broke off. -/
theorem exists_results_ne_unexpected {v : Validator} {anchors : List Certificate}
    (h : v.chainValidator = proxyChainValidator anchors) (trust : TrustSnapshot)
    (chain : List Certificate) (now : Duration) :
    ∃ results, v.results trust chain now = .ok results ∧
      ∀ result ∈ results, ∀ r ∈ result.rejections, r.reason ≠ .unexpected := by
  cases hread : Membership.readChain chain with
  | error error =>
    refine ⟨_, by rw [Validator.results, hread], ?_⟩
    simp
  | ok read =>
    have hverdict : v.chainValidator chain now = .ofExcept (validateChain anchors chain now) := by
      rw [h]
      rfl
    refine ⟨_, Validator.results_eq_of_verdict trust hread hverdict, ?_⟩
    rw [List.forall_mem_map]
    intro said hsaid
    obtain ⟨place, hplace⟩ := List.mem_iff_getElem?.1 hsaid
    cases said with
    | error fault => simp [Validator.resultOf, ValidationResult.ofFault]
    | ok m =>
      cases hchain : validateChain anchors chain now with
      | error error =>
        simp [Validator.resultOf, Validator.checkIn, ValidationResult.ofCheck]
      | ok verdict =>
        let x : Examination := {
          validator := v
          trust, chain, now, place, verdict
          membership := m
          isRead := ⟨read, hread, hplace⟩
          isAccepted := by rw [hverdict, hchain]; rfl }
        rw [Validator.resultOf, Validator.checkIn]
        cases hcheck : m.check v.settings v.chainValidator trust chain verdict.endEntity now with
        | ok => simp [ValidationResult.ofCheck]
        | error rs => exact x.check_ne_unexpected h hcheck

/-! ### Diagnostics -/

/-- How the reasons of a report follow from the steps. -/
structure Explains (x : Examination) (rejections : List Rejection) : Prop where
  /-- There is none exactly if all steps pass. -/
  eq_nil_iff : rejections = [] ↔ ∀ s, x.Passes s
  /-- Otherwise there is a first step that fails. -/
  exists_failsFirstAt : rejections ≠ [] → ∃ s, x.FailsFirstAt s
  /-- All reasons are of that step. -/
  reason_mem : ∀ s, x.FailsFirstAt s → ∀ r ∈ rejections, r.reason ∈ s.reasons
  /-- They are the same whatever only later steps look at. -/
  later : ∀ s, x.FailsFirstAt s → ∀ y : Examination, (∀ t ∈ s.earlier, x.SameFor y t) →
    x.SameFor y s → y.Reports rejections
  /-- Several reasons mean that nothing is known of the authority, or that none of its certificates
  can be used. -/
  several : 1 < rejections.length → x.FailsFirstAt .authority ∧
    (rejections.map (·.reason) = [.authorityNotFound, .lscNotFound] ∨
      (∀ c ∈ x.trust.certificatesOf x.membership.issuer, ¬Membership.IsUsable x.now c) ∧
        List.Forall₂ Membership.IsAbout (x.trust.certificatesOf x.membership.issuer) rejections)
  /-- Nothing is known of the authority. -/
  unknown : x.FailsFirstAt .authority → x.trust.certificatesOf x.membership.issuer = [] →
    x.trust.lsc.find? x.membership.vo x.membership.host = none →
      rejections.map (·.reason) = [.authorityNotFound, .lscNotFound]
  /-- No certificate of the authority can be used. -/
  unusable : x.FailsFirstAt .authority → x.trust.certificatesOf x.membership.issuer ≠ [] →
    (∀ c ∈ x.trust.certificatesOf x.membership.issuer, ¬Membership.IsUsable x.now c) →
      List.Forall₂ Membership.IsAbout (x.trust.certificatesOf x.membership.issuer) rejections
  /-- Some certificate of the authority can be used. -/
  usable : x.FailsFirstAt .authority →
    (∃ c ∈ x.trust.certificatesOf x.membership.issuer, Membership.IsUsable x.now c) →
      rejections.map (·.reason) = [.signature]

theorem explains_of_passes (h : ∀ s, x.Passes s) : x.Explains [] := by
  have hnever : ∀ s, ¬x.FailsFirstAt s := fun s hs => hs.2 (h s)
  exact {
    eq_nil_iff := by simp [h]
    exists_failsFirstAt := by simp
    reason_mem := by simp
    later := fun s hs => absurd hs (hnever s)
    several := by simp
    unknown := fun hs => absurd hs (hnever _)
    unusable := fun hs => absurd hs (hnever _)
    usable := fun hs => absurd hs (hnever _) }

theorem FailsFirstAt.explains {s : CheckStep} (hs : x.FailsFirstAt s) {rejections : List Rejection}
    (hreports : x.Reports rejections) : x.Explains rejections where
  eq_nil_iff := iff_of_false (hs.ne_nil hreports) fun hall => hs.2 (hall s)
  exists_failsFirstAt _ := ⟨s, hs⟩
  reason_mem t ht := reason_mem_reasons (ht.reports_iff.1 hreports)
  later t ht y hearlier hsame := by
    rw [(ht.of_sameFor hearlier hsame).reports_iff, ← outcome_eq_of_sameFor hsame]
    exact ht.reports_iff.1 hreports
  several hlength := by
    have hfail := hs.reports_iff.1 hreports
    by_cases hauthority : s = .authority
    · subst hauthority
      refine ⟨hs, ?_⟩
      cases isAuthorityFailure hfail with
      | signature => simp at hlength
      | unusable _ hunusable habout => exact .inr ⟨hunusable, habout⟩
      | unknown => exact .inl rfl
      | listed => simp at hlength
    · obtain ⟨r, rfl, -⟩ := exists_rejection hauthority hfail
      simp at hlength
  unknown ht hnone hlsc := by
    cases isAuthorityFailure (ht.reports_iff.1 hreports) with
    | signature husable => simp [hnone] at husable
    | unusable hsome => exact absurd hnone hsome
    | unknown => rfl
    | listed _ hfound => exact absurd hlsc hfound
  unusable ht hsome hunusable := by
    cases isAuthorityFailure (ht.reports_iff.1 hreports) with
    | signature husable =>
      obtain ⟨c, hc, huse⟩ := husable
      exact absurd huse (hunusable c hc)
    | unusable _ _ habout => exact habout
    | unknown hnone => exact absurd hnone hsome
    | listed hnone => exact absurd hnone hsome
  usable ht husable := by
    obtain ⟨c, hc, huse⟩ := husable
    cases isAuthorityFailure (ht.reports_iff.1 hreports) with
    | signature => rfl
    | unusable _ hunusable => exact absurd huse (hunusable c hc)
    | unknown hnone => simp [hnone] at hc
    | listed hnone => simp [hnone] at hc

/-- The first step that fails decides the reasons that a validator gives, and validation breaks off
under no validator whose chain validator knows proxies. -/
theorem diagnostics :
    (∀ x : Examination, ∃ rejections, x.Reports rejections ∧ x.Explains rejections) ∧
    ∀ (v : Validator) (anchors : List Certificate),
      v.chainValidator = proxyChainValidator anchors →
        ∀ (trust : TrustSnapshot) (chain : List Certificate) (now : Duration),
          ∃ results, v.results trust chain now = .ok results ∧
            ∀ result ∈ results, ∀ r ∈ result.rejections, r.reason ≠ .unexpected := by
  refine ⟨fun x => ?_, fun v anchors h => exists_results_ne_unexpected h⟩
  by_cases hall : ∀ s, x.Passes s
  · exact ⟨[], (reports_iff_of_passes hall).2 rfl, explains_of_passes hall⟩
  · obtain ⟨s, hs⟩ := exists_failsFirstAt hall
    obtain ⟨rejections, hfail⟩ := hs.exists_outcome_eq
    have hreports := hs.reports_iff.2 hfail
    exact ⟨rejections, hreports, hs.explains hreports⟩

end Examination

/-! ### An authority that is not known -/

namespace Sample

/-- A validator for which every certificate is an end entity. -/
def lenient : Validator := ⟨{}, fun _ _ => .accepted ⟨0, none, false, .ofSeconds 0⟩⟩

theorem readChain_carrier :
    Membership.readChain [carrier] = .ok [.ok organisation, .error .encoding] := by
  rw [Membership.readChain_of_extension? rfl length_carrier_le, List.map_cons, List.map_singleton,
    ofElement_organisationCertificate, ofElement_null]

/-- The attribute certificate is examined with empty trust directories. -/
def examination : Examination where
  validator := lenient
  trust := .empty
  chain := [carrier]
  now := organisationCertificate.body.validity.notBefore.moment
  place := 0
  membership := organisation
  verdict := ⟨0, none, false, .ofSeconds 0⟩
  isRead := ⟨_, readChain_carrier, rfl⟩
  isAccepted := rfl

theorem failsFirstAt_examination : examination.FailsFirstAt .authority := by
  have hperiod : examination.Passes .period :=
    Membership.checkPeriod_eq_ok_iff.1 (by decide +kernel)
  have hholder : examination.Passes .holder :=
    Membership.checkHolder_eq_ok_iff.1 (by decide +kernel)
  refine ⟨fun s hs => ?_, ?_⟩
  · have hearlier : CheckStep.authority.earlier = [.period, .holder] := rfl
    rw [hearlier, List.mem_pair] at hs
    rcases hs with rfl | rfl
    · exact hperiod
    · exact hholder
  · rintro (⟨c, hc, -⟩ | ⟨-, ⟨f, hf, -⟩, -, -⟩)
    · cases hc
    · cases hf

end Sample

theorem Examination.diagnostics_sample :
    (∃ rejections, Sample.examination.Reports rejections ∧
      rejections.map (·.reason) = [.authorityNotFound, .lscNotFound]) ∧
    ∃ results, Validator.results ⟨{}, proxyChainValidator []⟩ .empty [Sample.carrier]
        (.ofSeconds 0) = .ok results ∧
      ∀ result ∈ results, ∀ r ∈ result.rejections, r.reason ≠ .unexpected := by
  obtain ⟨hreport, hproxy⟩ := Examination.diagnostics
  obtain ⟨rejections, hreports, hexplains⟩ := hreport Sample.examination
  exact ⟨⟨rejections, hreports, hexplains.unknown Sample.failsFirstAt_examination rfl rfl⟩,
    hproxy ⟨{}, proxyChainValidator []⟩ [] rfl .empty [Sample.carrier] (.ofSeconds 0)⟩

end GridAuthz
