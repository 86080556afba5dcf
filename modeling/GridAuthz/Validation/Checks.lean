import GridAuthz.Chain.Validation
import GridAuthz.Configuration
import GridAuthz.Membership
import GridAuthz.Signature
import GridAuthz.Trust.Snapshot
import GridAuthz.Validation.Rejection

/-!
# Checks of attribute certificates

An attribute certificate that travels in an accepted chain is checked in four steps: it is valid
at the moment in question, its holder is the end entity of the chain, it is signed by a trusted
authority, and it is meant for this host. The first step that fails decides the rejections
(`Membership.check`).

An authority is trusted through its certificate in the trust directories. If there is none
with its name, the attribute certificate has to bring the chain of the authority along, and an
LSC file has to list it.
-/

namespace GridAuthz

/-- What a chain validator says about a chain. -/
inductive ChainVerdict where
  /-- The chain is accepted. -/
  | accepted (chain : ValidatedChain)
  /-- The chain is rejected. -/
  | rejected (error : ChainError)
  /-- Validation broke off. -/
  | aborted (reason : String)
  deriving DecidableEq

/-- A chain validator judges a chain, leaf first, at a moment. -/
abbrev ChainValidator := List Certificate → Duration → ChainVerdict

/-- The verdict of a validation that does not break off. -/
def ChainVerdict.ofExcept : Except ChainError ValidatedChain → ChainVerdict
  | .ok chain => accepted chain
  | .error error => rejected error

/-- The chain validator that knows proxies, with its trust anchors. -/
def proxyChainValidator (anchors : List Certificate) : ChainValidator :=
  fun chain now => .ofExcept (validateChain anchors chain now)

/-- The outcome of a check: nothing, or the rejections. -/
abbrev CheckResult := Except (List Rejection) Unit

namespace Membership

/-! ### Validity and holder -/

/-- The text of a moment. -/
def momentText (now : Duration) : String :=
  match DateTime.ofMoment? now with
  | some t => t.toText
  | none => s!"{now.seconds}s"

/-- The attributes may be used at a moment. The clock of the authority may be ahead by
`skew`. -/
def checkPeriod (m : Membership) (skew now : Duration) : CheckResult :=
  if m.notBefore.moment - skew ≤ now ∧ now ≤ m.notAfter.moment then .ok ()
  else .error [⟨.outsideValidity, [m.notBefore.toText, m.notAfter.toText, momentText now]⟩]

/-- The holder is the subject of a certificate. -/
def isHeldBy (m : Membership) (c : Certificate) : Bool :=
  m.holder.agrees c.issuer && m.holderSerial = c.body.serialNumber &&
    m.holderSubject.all (·.agrees c.subject)

/-- The holder is the end entity of a chain. -/
def checkHolder (m : Membership) (chain : List Certificate) (endEntity : Nat) : CheckResult :=
  match chain[endEntity]? with
  | none => .error [⟨.unexpected, ["end-entity certificate outside of the chain"]⟩]
  | some c =>
    if m.isHeldBy c then .ok ()
    else .error [⟨.holder, [m.holder.toText, m.holderSerial.toText, c.issuer.toText,
      c.body.serialNumber.toText]⟩]

/-! ### Signature -/

/-- The attribute certificate is signed with a key. -/
def isSignedWith (m : Membership) (key : PublicKey) : Bool :=
  match Signature.of? m.certificate.signatureAlgorithm m.certificate.signature with
  | some signature => key.verifies m.certificate.signedBytes signature
  | none => false

/-- The rejection of a signature. -/
def signatureRejection (m : Membership) : Rejection := ⟨.signature, [m.issuer.toText]⟩

/-- The key of a certificate of the authority, or the rejection of the certificate. -/
def authorityKey (now : Duration) (c : Certificate) : Except Rejection PublicKey :=
  match c.checkValidity now with
  | .error error => .error ⟨.invalidAuthority, [c.subject.toText, error.message]⟩
  | .ok () =>
    match c.publicKey? with
    | some key => .ok key
    | none =>
      .error ⟨.invalidAuthority, [c.subject.toText, SignatureError.message .key]⟩

/-- The rejections of the certificates that cannot be used. -/
def unusable (now : Duration) (candidates : List Certificate) : List Rejection :=
  candidates.filterMap fun c =>
    match authorityKey now c with
    | .error rejection => some rejection
    | .ok _ => none

/-- The keys of the certificates that can be used. -/
def usableKeys (now : Duration) (candidates : List Certificate) : List PublicKey :=
  candidates.filterMap fun c => (authorityKey now c).toOption

/-- One of the certificates that are known of the authority holds the key of the signature. -/
def checkKnownAuthority (m : Membership) (now : Duration) (candidates : List Certificate) :
    CheckResult :=
  let keys := usableKeys now candidates
  if keys.any m.isSignedWith then .ok ()
  else if keys.isEmpty then .error (unusable now candidates)
  else .error [m.signatureRejection]

/-- The chain of the authority is accepted. -/
def checkAuthorityChain (validator : ChainValidator) (chain : List Certificate)
    (now : Duration) : CheckResult :=
  match validator chain now with
  | .accepted _ => .ok ()
  | .rejected error => .error [⟨.authorityChain, [error.message]⟩]
  | .aborted reason => .error [⟨.unexpected, [reason]⟩]

/-- The signature is one of the authority whose chain the attribute certificate brings along,
and an LSC file lists that chain. -/
def checkListedAuthority (m : Membership) (validator : ChainValidator) (f : LscFile)
    (now : Duration) : CheckResult :=
  match m.authorityChain with
  | [] => .error [⟨.noAuthorityChain, [m.issuer.toText]⟩]
  | leaf :: issuers => do
    if !f.isMatch (leaf :: issuers) then
      .error [⟨.lscMismatch, [f.vo, f.host,
        String.intercalate ", " ((leaf :: issuers).map fun c => c.subject.toText)]⟩]
    if !leaf.subject.agrees m.issuer then
      .error [⟨.invalidAuthority, [leaf.subject.toText,
        "subject differs from the AC issuer " ++ m.issuer.toText]⟩]
    checkAuthorityChain validator (leaf :: issuers) now
    match leaf.publicKey? with
    | none =>
      .error [⟨.invalidAuthority, [leaf.subject.toText, SignatureError.message .key]⟩]
    | some key => if m.isSignedWith key then .ok () else .error [m.signatureRejection]

/-- The attribute certificate is signed by a trusted authority. -/
def checkSignature (m : Membership) (validator : ChainValidator) (trust : TrustSnapshot)
    (now : Duration) : CheckResult :=
  match trust.certificatesOf m.issuer with
  | c :: cs => m.checkKnownAuthority now (c :: cs)
  | [] =>
    match trust.lsc.find? m.vo m.host with
    | some f => m.checkListedAuthority validator f now
    | none => .error [⟨.authorityNotFound, [m.issuer.toText]⟩, ⟨.lscNotFound, [m.vo, m.host]⟩]

/-! ### Targets -/

/-- The attributes are meant for this host, or for all hosts. -/
def checkTargets (m : Membership) (localHost : Option String) : CheckResult :=
  if m.targets.isEmpty ||
      localHost.any fun host => m.targets.any (Text.sameIgnoringCase host) then .ok ()
  else .error [⟨.target, [localHost.getD "<unset>", String.intercalate ", " m.targets]⟩]

/-! ### All steps -/

/-- All steps in order. -/
def check (m : Membership) (settings : ValidatorSettings) (validator : ChainValidator)
    (trust : TrustSnapshot) (chain : List Certificate) (endEntity : Nat) (now : Duration) :
    CheckResult := do
  m.checkPeriod settings.clockSkew now
  m.checkHolder chain endEntity
  m.checkSignature validator trust now
  m.checkTargets settings.localHost

end Membership

end GridAuthz
