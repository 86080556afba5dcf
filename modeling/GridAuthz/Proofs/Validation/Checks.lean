import GridAuthz.Proofs.Chain.Acceptance
import GridAuthz.Proofs.Steps
import GridAuthz.Validation.Checks

/-!
# What the checks ask for

Each check of an attribute certificate passes exactly when the attribute certificate has the
property that the check is named for (`check_eq_ok_iff`), and a check that fails gives at least
one reason (`check_ne_error_nil`).
-/

namespace GridAuthz.Membership

/-! ### Properties -/

/-- The attributes may be used at a moment, when the clock of the authority may be ahead. -/
def IsCurrent (m : Membership) (skew now : Duration) : Prop :=
  m.notBefore.moment - skew ≤ now ∧ now ≤ m.notAfter.moment

/-- The holder is the subject of a certificate. -/
structure IsHeldBy (m : Membership) (c : Certificate) : Prop where
  /-- The issuers agree. -/
  issuer : m.holder.agrees c.issuer = true
  /-- The numbers are the same. -/
  serial : m.holderSerial = c.body.serialNumber
  /-- If the subject is given, it agrees too. -/
  subject : ∀ subject, m.holderSubject = some subject → subject.agrees c.subject = true

/-- The attribute certificate carries a signature of its body by the key of a certificate. -/
def IsSignedBy (m : Membership) (c : Certificate) : Prop :=
  ∃ key signature, c.publicKey? = some key ∧
    Signature.of? m.certificate.signatureAlgorithm m.certificate.signature = some signature ∧
    key.verifies m.certificate.body.toElement.encode signature = true

/-- A certificate of the trust directories with the name of the issuer is valid and holds the key
of the signature. -/
def IsFromKnownAuthority (m : Membership) (trust : TrustSnapshot) (now : Duration) : Prop :=
  ∃ c ∈ trust.certificates, c.subject.agrees m.issuer = true ∧
    (c.notBefore ≤ now ∧ now ≤ c.notAfter) ∧ m.IsSignedBy c

/-- The authority is one whose chain the attribute certificate brings along. -/
structure IsFromListedAuthority (m : Membership) (validator : ChainValidator)
    (trust : TrustSnapshot) (now : Duration) : Prop where
  /-- No certificate of the trust directories has the name of the issuer. -/
  unknown : ∀ c ∈ trust.certificates, c.subject.agrees m.issuer = false
  /-- An LSC file for the organisation and its server lists the chain. -/
  listed : ∃ f, trust.lsc.find? m.vo m.host = some f ∧ f.isMatch m.authorityChain = true
  /-- The chain starts with a certificate of the issuer that holds the key of the signature. -/
  leaf : ∃ leaf, m.authorityChain.head? = some leaf ∧ leaf.subject.agrees m.issuer = true ∧
    m.IsSignedBy leaf
  /-- The chain is accepted. -/
  accepted : ∃ verdict, validator m.authorityChain now = .accepted verdict

/-- The attributes are meant for this host, or for all hosts. -/
def IsMeantFor (m : Membership) (localHost : Option String) : Prop :=
  m.targets = [] ∨ ∃ host, localHost = some host ∧
    ∃ target ∈ m.targets, Text.sameIgnoringCase host target = true

variable {m : Membership} {now : Duration}

/-! ### Validity, holder and targets -/

theorem checkPeriod_eq_ok_iff {skew : Duration} :
    m.checkPeriod skew now = .ok () ↔ m.IsCurrent skew now := by
  rw [checkPeriod, IsCurrent]
  split_ifs with h <;> simp [h]

theorem isHeldBy_iff {c : Certificate} : m.isHeldBy c = true ↔ m.IsHeldBy c := by
  simp only [isHeldBy, Bool.and_eq_true, decide_eq_true_eq, Option.all_eq_true]
  exact ⟨fun ⟨⟨hissuer, hserial⟩, hsubject⟩ => ⟨hissuer, hserial, hsubject⟩,
    fun h => ⟨⟨h.issuer, h.serial⟩, h.subject⟩⟩

theorem checkHolder_eq_ok_iff {chain : List Certificate} {endEntity : Nat} :
    m.checkHolder chain endEntity = .ok () ↔
      ∃ c, chain[endEntity]? = some c ∧ m.IsHeldBy c := by
  rw [checkHolder]
  cases chain[endEntity]? with
  | none => simp
  | some c =>
    simp only [Option.some.injEq, exists_eq_left', ← isHeldBy_iff]
    split_ifs with h <;> simp [h]

theorem checkTargets_eq_ok_iff {localHost : Option String} :
    m.checkTargets localHost = .ok () ↔ m.IsMeantFor localHost := by
  have meant : (m.targets.isEmpty ||
      localHost.any fun host => m.targets.any (Text.sameIgnoringCase host)) = true ↔
      m.IsMeantFor localHost := by
    simp [IsMeantFor, Option.any_eq_true, List.any_eq_true]
  rw [checkTargets, ← meant]
  split_ifs with h <;> simp [h]

/-! ### Signature -/

theorem isSignedWith_iff {key : PublicKey} :
    m.isSignedWith key = true ↔ ∃ signature,
      Signature.of? m.certificate.signatureAlgorithm m.certificate.signature = some signature ∧
      key.verifies m.certificate.body.toElement.encode signature = true := by
  rw [isSignedWith]
  cases Signature.of? m.certificate.signatureAlgorithm m.certificate.signature <;>
    simp [AttributeCertificate.signedBytes]

theorem isSignedBy_iff {c : Certificate} :
    m.IsSignedBy c ↔ ∃ key, c.publicKey? = some key ∧ m.isSignedWith key = true := by
  simp only [IsSignedBy, isSignedWith_iff, exists_and_left]

theorem authorityKey_eq_ok_iff {c : Certificate} {key : PublicKey} :
    authorityKey now c = .ok key ↔
      (c.notBefore ≤ now ∧ now ≤ c.notAfter) ∧ c.publicKey? = some key := by
  rw [← Certificate.checkValidity_eq_ok_iff, authorityKey]
  cases c.checkValidity now with
  | error error => simp
  | ok => cases c.publicKey? <;> simp

theorem any_usableKeys_iff {candidates : List Certificate} :
    (usableKeys now candidates).any m.isSignedWith = true ↔
      ∃ c ∈ candidates, (c.notBefore ≤ now ∧ now ≤ c.notAfter) ∧ m.IsSignedBy c := by
  have usable : ∀ key, key ∈ usableKeys now candidates ↔
      ∃ c ∈ candidates, (c.notBefore ≤ now ∧ now ≤ c.notAfter) ∧ c.publicKey? = some key := by
    intro key
    simp only [usableKeys, List.mem_filterMap, ← authorityKey_eq_ok_iff]
    refine exists_congr fun c => and_congr_right fun _ => ?_
    cases authorityKey now c <;> simp [Except.toOption]
  simp only [List.any_eq_true, usable, isSignedBy_iff]
  grind

theorem checkKnownAuthority_eq_ok_iff {candidates : List Certificate} :
    m.checkKnownAuthority now candidates = .ok () ↔
      ∃ c ∈ candidates, (c.notBefore ≤ now ∧ now ≤ c.notAfter) ∧ m.IsSignedBy c := by
  rw [← any_usableKeys_iff, checkKnownAuthority]
  split_ifs with hsigned hempty <;> simp [hsigned]

theorem checkAuthorityChain_eq_ok_iff {validator : ChainValidator} {chain : List Certificate} :
    checkAuthorityChain validator chain now = .ok () ↔
      ∃ verdict, validator chain now = .accepted verdict := by
  rw [checkAuthorityChain]
  cases validator chain now <;> simp

theorem checkListedAuthority_eq_ok_iff {validator : ChainValidator} {f : LscFile} :
    m.checkListedAuthority validator f now = .ok () ↔
      f.isMatch m.authorityChain = true ∧
      (∃ leaf, m.authorityChain.head? = some leaf ∧ leaf.subject.agrees m.issuer = true ∧
        m.IsSignedBy leaf) ∧
      ∃ verdict, validator m.authorityChain now = .accepted verdict := by
  rw [checkListedAuthority]
  cases m.authorityChain with
  | nil => simp
  | cons leaf issuers =>
    simp only [isSignedBy_iff, guard_bind_eq_ok_iff, check_bind_eq_ok_iff,
      checkAuthorityChain_eq_ok_iff, List.head?_cons, Option.some.injEq, exists_eq_left']
    cases leaf.publicKey? with
    | none => simp
    | some key => cases hsigned : m.isSignedWith key <;> simp [hsigned]

theorem checkSignature_eq_ok_iff {validator : ChainValidator} {trust : TrustSnapshot} :
    m.checkSignature validator trust now = .ok () ↔
      m.IsFromKnownAuthority trust now ∨ m.IsFromListedAuthority validator trust now := by
  have known : m.checkKnownAuthority now (trust.certificatesOf m.issuer) = .ok () ↔
      m.IsFromKnownAuthority trust now := by
    simp only [checkKnownAuthority_eq_ok_iff, TrustSnapshot.certificatesOf, List.mem_filter,
      IsFromKnownAuthority, and_assoc]
  rw [checkSignature]
  cases hcs : trust.certificatesOf m.issuer with
  | cons c cs =>
    have hc : c ∈ trust.certificates ∧ c.subject.agrees m.issuer = true :=
      List.mem_filter.1 (show c ∈ trust.certificatesOf m.issuer by simp [hcs])
    have unlisted : ¬m.IsFromListedAuthority validator trust now := by
      intro h
      simpa [hc.2] using h.unknown c hc.1
    rw [hcs] at known
    simp [known, unlisted]
  | nil =>
    have none : ∀ c ∈ trust.certificates, c.subject.agrees m.issuer = false := by
      simpa [TrustSnapshot.certificatesOf, List.filter_eq_nil_iff] using hcs
    have unknown : ¬m.IsFromKnownAuthority trust now := by
      rintro ⟨c, hc, hname, -⟩
      simp [none c hc] at hname
    simp only [unknown, false_or]
    cases hfind : trust.lsc.find? m.vo m.host with
    | none =>
      simp only [reduceCtorEq, false_iff]
      rintro ⟨-, ⟨f, hf, -⟩, -, -⟩
      simp [hfind] at hf
    | some f =>
      simp only [checkListedAuthority_eq_ok_iff]
      constructor
      · rintro ⟨hmatch, hleaf, haccepted⟩
        exact ⟨none, ⟨f, hfind, hmatch⟩, hleaf, haccepted⟩
      · rintro ⟨-, ⟨g, hg, hmatch⟩, hleaf, haccepted⟩
        cases hfind.symm.trans hg
        exact ⟨hmatch, hleaf, haccepted⟩

/-! ### All steps -/

theorem check_eq_ok_iff {settings : ValidatorSettings} {validator : ChainValidator}
    {trust : TrustSnapshot} {chain : List Certificate} {endEntity : Nat} :
    m.check settings validator trust chain endEntity now = .ok () ↔
      m.IsCurrent settings.clockSkew now ∧
      (∃ c, chain[endEntity]? = some c ∧ m.IsHeldBy c) ∧
      (m.IsFromKnownAuthority trust now ∨ m.IsFromListedAuthority validator trust now) ∧
      m.IsMeantFor settings.localHost := by
  rw [check, check_bind_eq_ok_iff, check_bind_eq_ok_iff, check_bind_eq_ok_iff,
    checkPeriod_eq_ok_iff, checkHolder_eq_ok_iff, checkSignature_eq_ok_iff,
    checkTargets_eq_ok_iff]

/-! ### Reasons -/

theorem bind_ne_error_nil {x : CheckResult} {f : Unit → CheckResult} (hx : x ≠ .error [])
    (hf : f () ≠ .error []) : (x >>= f) ≠ .error [] := by
  cases x with
  | ok => exact hf
  | error => exact hx

theorem guard_ne_error_nil {c : Prop} [Decidable c] {reasons : List Rejection}
    {f : Unit → CheckResult} {y : CheckResult} (hreasons : reasons ≠ []) (hy : y ≠ .error []) :
    (if c then (Except.error reasons : CheckResult) >>= f else y) ≠ .error [] := by
  split_ifs
  · simpa [bind, Except.bind] using hreasons
  · exact hy

/-- When no certificate can be used, each of them is a reason. -/
theorem checkKnownAuthority_ne_error_nil (m : Membership) (now : Duration) (c : Certificate)
    (cs : List Certificate) : m.checkKnownAuthority now (c :: cs) ≠ .error [] := by
  rw [checkKnownAuthority]
  split_ifs with hsigned hempty
  · simp
  · simp only [usableKeys, List.isEmpty_iff, List.filterMap_eq_nil_iff] at hempty
    have hc := hempty c (by simp)
    cases hkey : authorityKey now c with
    | ok key => simp [hkey, Except.toOption] at hc
    | error rejection => simp [unusable, hkey]
  · simp

theorem checkListedAuthority_ne_error_nil (m : Membership) (validator : ChainValidator)
    (f : LscFile) (now : Duration) : m.checkListedAuthority validator f now ≠ .error [] := by
  rw [checkListedAuthority]
  cases m.authorityChain with
  | nil => simp
  | cons leaf issuers =>
    refine guard_ne_error_nil (by simp) (guard_ne_error_nil (by simp) (bind_ne_error_nil ?_ ?_))
    · rw [checkAuthorityChain]
      cases validator (leaf :: issuers) now <;> simp
    · cases leaf.publicKey? with
      | none => simp
      | some key => cases hsigned : m.isSignedWith key <;> simp [hsigned]

theorem checkSignature_ne_error_nil (m : Membership) (validator : ChainValidator)
    (trust : TrustSnapshot) (now : Duration) :
    m.checkSignature validator trust now ≠ .error [] := by
  rw [checkSignature]
  cases trust.certificatesOf m.issuer with
  | cons c cs => exact m.checkKnownAuthority_ne_error_nil now c cs
  | nil =>
    cases trust.lsc.find? m.vo m.host with
    | none => simp
    | some f => exact m.checkListedAuthority_ne_error_nil validator f now

/-- A check that fails says why. -/
theorem check_ne_error_nil (m : Membership) (settings : ValidatorSettings)
    (validator : ChainValidator) (trust : TrustSnapshot) (chain : List Certificate)
    (endEntity : Nat) (now : Duration) :
    m.check settings validator trust chain endEntity now ≠ .error [] := by
  refine bind_ne_error_nil ?_ (bind_ne_error_nil ?_ (bind_ne_error_nil ?_ ?_))
  · rw [checkPeriod]
    split_ifs <;> simp
  · rw [checkHolder]
    cases chain[endEntity]? with
    | none => simp
    | some c =>
      simp only
      split_ifs <;> simp
  · exact m.checkSignature_ne_error_nil validator trust now
  · rw [checkTargets]
    split_ifs <;> simp

end GridAuthz.Membership
