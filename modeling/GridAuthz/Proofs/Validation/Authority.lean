import Mathlib.Data.List.Forall2
import GridAuthz.Proofs.Validation.Checks

/-!
# Why an authority is not trusted

What is found when the signature of an attribute certificate is not one of a trusted authority
(`Membership.IsAuthorityFailure`). Its certificates in the trust directories come first: if none of
them can be used, each is a reason; otherwise the signature is the only one.
-/

namespace GridAuthz.Membership

variable {m : Membership} {now : Duration}

/-! ### Certificates of the authority -/

/-- A certificate is valid and holds a key. -/
def IsUsable (now : Duration) (c : Certificate) : Prop :=
  (c.notBefore ≤ now ∧ now ≤ c.notAfter) ∧ c.publicKey?.isSome = true

/-- The rejection says that a certificate cannot be used. -/
def IsAbout (c : Certificate) (r : Rejection) : Prop :=
  r.reason = .invalidAuthority ∧ r.details.head? = some c.subject.toText

theorem authorityKey_cases (now : Duration) (c : Certificate) :
    (IsUsable now c ∧ ∃ key, authorityKey now c = .ok key) ∨
      ¬IsUsable now c ∧ ∃ r, authorityKey now c = .error r ∧ IsAbout c r := by
  simp only [IsUsable, ← Certificate.checkValidity_eq_ok_iff, authorityKey]
  cases c.checkValidity now with
  | error error => simp [IsAbout]
  | ok => cases c.publicKey? <;> simp [IsAbout]

theorem usableKeys_eq_nil_iff {candidates : List Certificate} :
    usableKeys now candidates = [] ↔ ∀ c ∈ candidates, ¬IsUsable now c := by
  rw [usableKeys, List.filterMap_eq_nil_iff]
  refine forall₂_congr fun c _ => ?_
  rcases authorityKey_cases now c with ⟨husable, key, hkey⟩ | ⟨hnot, r, hr, -⟩
  · simp [hkey, husable, Except.toOption]
  · simp [hr, hnot, Except.toOption]

theorem forall₂_unusable {candidates : List Certificate}
    (h : ∀ c ∈ candidates, ¬IsUsable now c) :
    List.Forall₂ IsAbout candidates (unusable now candidates) := by
  induction candidates with
  | nil => exact .nil
  | cons c candidates ih =>
    rw [List.forall_mem_cons] at h
    rcases authorityKey_cases now c with ⟨husable, -⟩ | ⟨-, r, hr, habout⟩
    · exact absurd husable h.1
    · have hcons : unusable now (c :: candidates) = r :: unusable now candidates := by
        simp [unusable, hr]
      rw [hcons]
      exact .cons habout (ih h.2)

theorem reason_eq_of_forall₂ {candidates : List Certificate} {rs : List Rejection}
    (h : List.Forall₂ IsAbout candidates rs) : ∀ r ∈ rs, r.reason = .invalidAuthority := by
  induction h with
  | nil => simp
  | cons habout _ ih => exact List.forall_mem_cons.2 ⟨habout.1, ih⟩

/-! ### The search for the authority -/

/-- What may be wrong when an LSC file is found, or with the signature. -/
def chainReasons : List RejectionReason :=
  [.noAuthorityChain, .lscMismatch, .invalidAuthority, .authorityChain, .signature, .unexpected]

/-- Which reasons are given when the authority is not found or its signature is not one. -/
inductive IsAuthorityFailure (m : Membership) (validator : ChainValidator) (trust : TrustSnapshot)
    (now : Duration) : List Rejection → Prop where
  /-- Some certificate of the authority can be used. -/
  | signature (husable : ∃ c ∈ trust.certificatesOf m.issuer, IsUsable now c) :
    IsAuthorityFailure m validator trust now [m.signatureRejection]
  /-- No certificate of the authority can be used: one reason for each. -/
  | unusable {rs : List Rejection} (hcandidates : trust.certificatesOf m.issuer ≠ [])
    (hunusable : ∀ c ∈ trust.certificatesOf m.issuer, ¬IsUsable now c)
    (habout : List.Forall₂ IsAbout (trust.certificatesOf m.issuer) rs) :
    IsAuthorityFailure m validator trust now rs
  /-- There is no certificate of the authority and no LSC file. -/
  | unknown (hcandidates : trust.certificatesOf m.issuer = [])
    (hlsc : trust.lsc.find? m.vo m.host = none) :
    IsAuthorityFailure m validator trust now
      [⟨.authorityNotFound, [m.issuer.toText]⟩, ⟨.lscNotFound, [m.vo, m.host]⟩]
  /-- There is an LSC file, but the chain that is brought along does not do. -/
  | listed {r : Rejection} (hcandidates : trust.certificatesOf m.issuer = [])
    (hlsc : trust.lsc.find? m.vo m.host ≠ none) (hreason : r.reason ∈ chainReasons)
    (haborted : r.reason = .unexpected →
      ∃ reason, validator m.authorityChain now = .aborted reason) :
    IsAuthorityFailure m validator trust now [r]

theorem checkListedAuthority_eq_error {validator : ChainValidator} {f : LscFile}
    {rs : List Rejection} (h : m.checkListedAuthority validator f now = .error rs) :
    ∃ r, rs = [r] ∧ r.reason ∈ chainReasons ∧
      (r.reason = .unexpected → ∃ reason, validator m.authorityChain now = .aborted reason) := by
  rw [checkListedAuthority] at h
  split at h
  case h_1 =>
    cases h
    simp [chainReasons]
  case h_2 leaf issuers hchain =>
    rw [hchain]
    simp only [guard_bind_eq_error_iff, check_bind_eq_error_iff] at h
    rcases h with ⟨-, rfl⟩ | ⟨-, ⟨-, rfl⟩ | ⟨-, h | ⟨-, h⟩⟩⟩
    · simp [chainReasons]
    · simp [chainReasons]
    · rw [checkAuthorityChain] at h
      split at h
      case h_1 => cases h
      case h_2 =>
        cases h
        simp [chainReasons]
      case h_3 reason haborted =>
        cases h
        simp [chainReasons, haborted]
    · split at h
      case h_1 =>
        cases h
        simp [chainReasons]
      case h_2 =>
        split_ifs at h
        cases h
        simp [chainReasons, signatureRejection]

theorem isAuthorityFailure_of_checkSignature {validator : ChainValidator} {trust : TrustSnapshot}
    {rs : List Rejection} (h : m.checkSignature validator trust now = .error rs) :
    m.IsAuthorityFailure validator trust now rs := by
  rw [checkSignature] at h
  split at h
  case h_1 c cs hcandidates =>
    rw [checkKnownAuthority] at h
    split_ifs at h with hsigned hempty
    · cases h
      rw [List.isEmpty_iff, usableKeys_eq_nil_iff, ← hcandidates] at hempty
      refine .unusable (by simp [hcandidates]) hempty ?_
      rw [← hcandidates]
      exact forall₂_unusable hempty
    · cases h
      rw [List.isEmpty_iff, usableKeys_eq_nil_iff, ← hcandidates] at hempty
      refine .signature ?_
      simpa using hempty
  case h_2 hcandidates =>
    split at h
    case h_1 f hf =>
      obtain ⟨r, rfl, hreason, haborted⟩ := checkListedAuthority_eq_error h
      exact .listed hcandidates (by simp [hf]) hreason haborted
    case h_2 hf =>
      cases h
      exact .unknown hcandidates hf

end GridAuthz.Membership
