import GridAuthz.Proofs.Membership.Reading
import GridAuthz.Proofs.Validation.Checks
import GridAuthz.Validation.Validator

/-!
# The policy for attribute certificates

Which attribute certificates a validator accepts, said without the order of the checks
(`Validator.Accepts`), and that its results are valid for these and no others
(`results_valid_iff_accepts`).
-/

namespace GridAuthz

/-! ### The policy -/

namespace Validator

/-- What is asked of a well formed attribute certificate in a chain. -/
structure Accepts (v : Validator) (trust : TrustSnapshot) (chain : List Certificate)
    (now : Duration) (m : Membership) : Prop where
  /-- The chain is accepted, and its end entity is the holder. -/
  holder : ∃ validated c, v.chainValidator chain now = .accepted validated ∧
    chain[validated.endEntity]? = some c ∧ m.IsHeldBy c
  /-- The attributes may be used. -/
  current : m.IsCurrent v.settings.clockSkew now
  /-- The signature is one of a trusted authority. -/
  authority : m.IsFromKnownAuthority trust now ∨
    m.IsFromListedAuthority v.chainValidator trust now
  /-- The attributes are meant for this host. -/
  target : m.IsMeantFor v.settings.localHost

variable {v : Validator} {trust : TrustSnapshot} {chain : List Certificate} {now : Duration}

theorem isValid_ofCheck_iff {m : Membership} {checked : CheckResult} (h : checked ≠ .error []) :
    (ValidationResult.ofCheck m checked).isValid = true ↔ checked = .ok () := by
  cases checked with
  | ok => simp [ValidationResult.ofCheck, ValidationResult.isValid]
  | error rejections => simpa [ValidationResult.ofCheck, ValidationResult.isValid] using h

theorem checkIn_ok_eq_ok_iff {validated : ValidatedChain} {m : Membership}
    (h : v.chainValidator chain now = .accepted validated) :
    v.checkIn trust chain now (.ok validated) m = .ok () ↔ v.Accepts trust chain now m := by
  rw [checkIn, Membership.check_eq_ok_iff]
  constructor
  · rintro ⟨hcurrent, ⟨c, hc, hholder⟩, hauthority, htarget⟩
    exact ⟨⟨validated, c, h, hc, hholder⟩, hcurrent, hauthority, htarget⟩
  · rintro ⟨⟨validated', c, h', hc, hholder⟩, hcurrent, hauthority, htarget⟩
    cases h.symm.trans h'
    exact ⟨hcurrent, ⟨c, hc, hholder⟩, hauthority, htarget⟩

theorem checkIn_ne_error_nil (verdict : Except ChainError ValidatedChain) (m : Membership) :
    v.checkIn trust chain now verdict m ≠ .error [] := by
  cases verdict with
  | error error => simp [checkIn]
  | ok validated => exact m.check_ne_error_nil _ _ _ _ _ _

/-- The result for one attribute certificate, given the verdict on its chain. -/
theorem isValid_resultOf_iff (trust : TrustSnapshot) {verdict : Except ChainError ValidatedChain}
    (h : v.chainValidator chain now = .ofExcept verdict) (read : Except Membership.Fault Membership) :
    (resultOf (v.checkIn trust chain now verdict) read).isValid = true ↔
      ∃ m, read = .ok m ∧ v.Accepts trust chain now m := by
  cases read with
  | error fault => simp [resultOf, ValidationResult.ofFault, ValidationResult.isValid]
  | ok m =>
    rw [resultOf, isValid_ofCheck_iff (checkIn_ne_error_nil verdict m)]
    simp only [Except.ok.injEq, exists_eq_left']
    cases verdict with
    | ok validated => exact checkIn_ok_eq_ok_iff h
    | error error =>
      simp only [checkIn, reduceCtorEq, false_iff]
      rintro ⟨⟨validated, -, h', -⟩, -, -, -⟩
      simp [h, ChainVerdict.ofExcept] at h'

/-! ### Results -/

theorem results_eq_of_verdict (trust : TrustSnapshot) {read : List (Except Membership.Fault Membership)}
    {verdict : Except ChainError ValidatedChain} (hread : Membership.readChain chain = .ok read)
    (hverdict : v.chainValidator chain now = .ofExcept verdict) :
    v.results trust chain now =
      .ok (read.map (resultOf (v.checkIn trust chain now verdict))) := by
  rw [results, hread, hverdict]
  cases read with
  | nil => simp
  | cons r rs => cases verdict <;> simp [ChainVerdict.ofExcept]

theorem results_eq_of_aborted (trust : TrustSnapshot) {r : Except Membership.Fault Membership}
    {rs : List (Except Membership.Fault Membership)} {reason : String}
    (hread : Membership.readChain chain = .ok (r :: rs))
    (haborted : v.chainValidator chain now = .aborted reason) :
    v.results trust chain now = .error reason := by
  rw [results, hread, haborted]

/-- The verdict of a chain validator that does not break off. -/
theorem verdict_cases (validator : ChainValidator) (chain : List Certificate) (now : Duration) :
    (∃ verdict, validator chain now = .ofExcept verdict) ∨
      ∃ reason, validator chain now = .aborted reason := by
  cases h : validator chain now with
  | accepted chain => exact .inl ⟨.ok chain, rfl⟩
  | rejected error => exact .inl ⟨.error error, rfl⟩
  | aborted reason => exact .inr ⟨reason, rfl⟩

theorem membership_resultOf (check : Membership → CheckResult)
    (read : Except Membership.Fault Membership) : (resultOf check read).membership = read.toOption := by
  cases read with
  | error fault => rfl
  | ok m =>
    rw [resultOf]
    cases check m <;> rfl

open Classical in
/-- What is returned for one attribute certificate, given the verdict on its chain. -/
theorem valid?_resultOf {verdict : Except ChainError ValidatedChain}
    (h : v.chainValidator chain now = .ofExcept verdict)
    (read : Except Membership.Fault Membership) :
    (resultOf (v.checkIn trust chain now verdict) read).valid? =
      read.toOption.filter fun m => v.Accepts trust chain now m := by
  have hvalid := isValid_resultOf_iff trust h read
  rw [ValidationResult.valid?, membership_resultOf]
  cases read with
  | error fault => simp [Except.toOption]
  | ok m =>
    simp only [Except.ok.injEq, exists_eq_left'] at hvalid
    simp only [hvalid, Except.toOption, Option.filter_some, decide_eq_true_eq]

/-- A validator accepts exactly the attribute certificates that the policy asks for. -/
theorem results_valid_iff_accepts (v : Validator) (trust : TrustSnapshot)
    (chain : List Certificate) (now : Duration) {bytes : Bytes} {elements : List Der.Element}
    (hx : Membership.extension? chain = some bytes)
    (hs : (Der.Element.decode? bytes).bind Der.Element.sequence? = some elements) :
    (∀ (i : Nat) (e : Der.Element), elements[i]? = some e →
      ((∃ results, v.results trust chain now = .ok results ∧
          ∃ r, results[i]? = some r ∧ r.isValid = true) ↔
        ∃ m, AttributeCertificate.ofElement? e = some m.certificate ∧
          Membership.ofCertificate m.certificate = .ok m ∧ v.Accepts trust chain now m)) ∧
    open Classical in
    (v.accepted trust chain now =
        .ok ((elements.filterMap fun e => (Membership.ofElement e).toOption).filter fun m =>
          v.Accepts trust chain now m) ∨
      elements ≠ [] ∧ ∃ reason, v.chainValidator chain now = .aborted reason ∧
        v.accepted trust chain now = .error reason) := by
  have hread := Membership.readChain_eq_ok hx hs
  rcases verdict_cases v.chainValidator chain now with ⟨verdict, hverdict⟩ | ⟨reason, haborted⟩
  · have hresults := results_eq_of_verdict trust hread hverdict
    refine ⟨fun i e he => ?_, .inl ?_⟩
    · have hi : ((elements.map Membership.ofElement).map
          (resultOf (v.checkIn trust chain now verdict)))[i]? =
          some (resultOf (v.checkIn trust chain now verdict) (Membership.ofElement e)) := by
        simp [he]
      simp only [hresults, Except.ok.injEq, exists_eq_left', hi, Option.some.injEq,
        isValid_resultOf_iff trust hverdict, Membership.ofElement_eq_ok_iff, and_assoc]
    · rw [accepted, hresults, List.filter_filterMap]
      simp only [Except.map, List.filterMap_map, Function.comp_def, valid?_resultOf hverdict]
  · have hnot : ∀ m, ¬v.Accepts trust chain now m := by
      rintro m ⟨⟨validated, -, h, -⟩, -, -, -⟩
      simp [haborted] at h
    cases elements with
    | nil => exact ⟨by simp, .inl (by simp [accepted, results, hread, Except.map])⟩
    | cons e es =>
      have hresults := results_eq_of_aborted trust hread haborted
      refine ⟨fun i e he => ?_, .inr ⟨by simp, reason, haborted, ?_⟩⟩
      · simp [hresults, hnot]
      · simp [accepted, hresults, Except.map]

end Validator

end GridAuthz
