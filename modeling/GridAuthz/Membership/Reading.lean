import GridAuthz.Membership
import GridAuthz.Membership.Fqan

/-!
# Reading attribute certificates

`Membership.ofCertificate` gathers what an attribute certificate says from its parts. No part
is checked against anything outside the certificate. Of several faults the first counts, in
the order in which the parts are read: version, holder, issuer, groups and roles, extensions,
signature.
-/

namespace GridAuthz.Membership

/-- What is wrong with an attribute certificate. -/
inductive Fault where
  /-- It cannot be decoded. -/
  | encoding
  /-- It is not of the second version. -/
  | version
  /-- It does not refer to the holder's certificate. -/
  | noHolder
  /-- The issuer of the holder's certificate has no distinguished name. -/
  | noHolderIssuer
  /-- The attribute authority has no distinguished name. -/
  | noIssuer
  /-- It has no attribute for groups and roles. -/
  | noFqanAttribute
  /-- The attribute for groups and roles has no value. -/
  | emptyFqanAttribute
  /-- The value of the attribute cannot be decoded. -/
  | fqanAttribute
  /-- The groups and roles have no policy authority. -/
  | noPolicyAuthority
  /-- The policy authority is no organisation with an address. -/
  | policyAuthority
  /-- A group or role is not UTF-8. -/
  | fqanText
  /-- There are no groups and roles. -/
  | noFqans
  /-- The certificates of the authority cannot be decoded. -/
  | authorityCertificates
  /-- The generic attributes cannot be decoded. -/
  | genericAttributes
  /-- A generic attribute is not UTF-8. -/
  | genericAttributeText
  /-- The targets cannot be decoded. -/
  | targets
  /-- An extension is critical and unknown. -/
  | criticalExtension
  /-- The signature does not consist of whole bytes. -/
  | signature
  deriving DecidableEq

/-- What is said about the certificate. -/
def Fault.message : Fault → String
  | encoding => "malformed encoding"
  | version => "unsupported version"
  | noHolder => "missing holder baseCertificateID"
  | noHolderIssuer => "missing holder issuer name"
  | noIssuer => "missing issuer name"
  | noFqanAttribute => "missing FQAN attribute"
  | emptyFqanAttribute => "empty FQAN attribute"
  | fqanAttribute => "malformed FQAN attribute"
  | noPolicyAuthority => "missing FQAN policy authority"
  | policyAuthority => "malformed FQAN policy authority"
  | fqanText => "FQAN is not UTF-8"
  | noFqans => "no FQANs"
  | authorityCertificates => "malformed AC certificates extension"
  | genericAttributes => "malformed generic attributes extension"
  | genericAttributeText => "generic attribute is not UTF-8"
  | targets => "malformed target information"
  | criticalExtension => "unsupported critical extension"
  | signature => "signature is not octet aligned"

/-- A value that has to be there. -/
def require {α : Type} (value : Option α) (fault : Fault) : Except Fault α :=
  match value with
  | some a => .ok a
  | none => .error fault

/-! ### Groups and roles -/

/-- The group or role that a value names; object identifiers name none. -/
def fqan? : PolicyValue → Option (Except Fault String)
  | .octets bytes => some ((require (Bytes.toText? bytes) .fqanText).map Fqan.normalize)
  | .text s => some (.ok (Fqan.normalize s))
  | .oid _ => none

/-- The groups and roles of a list of values; there is at least one. -/
def readFqans (values : List PolicyValue) : Except Fault (List String) := do
  let names ← (values.filterMap fqan?).mapM id
  if names.isEmpty then .error .noFqans else .ok names

/-- The policy authority of groups and roles, the first identifier among its names. -/
def authorityOf (values : PolicyValues) : Except Fault PolicyAuthority := do
  let text ← require ((values.authority.getD []).findSome? GeneralName.uri?) .noPolicyAuthority
  require (PolicyAuthority.ofText? text) .policyAuthority

/-- The first value of the attribute for groups and roles. -/
def policyValues (c : AttributeCertificate) : Except Fault PolicyValues := do
  let held ← require c.fqanAttribute? .noFqanAttribute
  let value ← require held.values.members.head? .emptyFqanAttribute
  require (PolicyValues.ofElement? value) .fqanAttribute

/-! ### Extensions -/

/-- What the extensions hold. An extension that occurs again replaces what was there. -/
structure Details where
  /-- The certificates of the authority. -/
  authorityChain : List Certificate
  /-- The generic attributes. -/
  genericAttributes : List GenericAttribute
  /-- The targets. -/
  targets : List String
  deriving DecidableEq

/-- Extensions without content that is used here, which may yet be critical: that no
revocation is available, and the identifier of the authority's key. -/
def ignoredExtensions : List Oid := [⟨[0x55, 0x1D, 0x38], rfl⟩, ⟨[0x55, 0x1D, 0x23], rfl⟩]

/-- A generic attribute as text. -/
def genericAttribute (t : GenericTag) : Except Fault GenericAttribute := do
  return ⟨← require (Bytes.toText? t.name) .genericAttributeText,
    ← require (Bytes.toText? t.value) .genericAttributeText,
    ← require (Bytes.toText? t.qualifier) .genericAttributeText⟩

/-- Adds what one extension holds. -/
def addExtension (d : Details) (x : Extension) : Except Fault Details :=
  if x.id = AuthorityCertificates.extensionId then do
    return { d with
      authorityChain := ← require (AuthorityCertificates.ofDer? x.value) .authorityCertificates }
  else if x.id = TagList.extensionId then do
    let lists ← require (TagList.listsOfDer? x.value) .genericAttributes
    return { d with
      genericAttributes := ← (lists.flatMap (·.tags)).mapM genericAttribute }
  else if x.id = Targets.extensionId then do
    return { d with targets := ← require (Targets.ofDer? x.value) .targets }
  else if x.critical && !ignoredExtensions.contains x.id then .error .criticalExtension
  else .ok d

/-- What all extensions hold. -/
def readDetails (extensions : List Extension) : Except Fault Details :=
  extensions.foldlM addExtension ⟨[], [], []⟩

/-! ### The certificate as a whole -/

/-- The version of attribute certificates that is read. -/
def supportedVersion : UInt8 := 1

/-- What an attribute certificate says. -/
def ofCertificate (c : AttributeCertificate) : Except Fault Membership := do
  if c.body.version ≠ supportedVersion then .error .version
  let reference ← require c.body.holder.certificate .noHolder
  let holder ← require (GeneralName.firstDirectory? reference.issuer) .noHolderIssuer
  let issuer ← require (GeneralName.firstDirectory? c.body.issuer.names) .noIssuer
  let values ← policyValues c
  let authority ← authorityOf values
  let fqans ← readFqans values.values
  let details ← readDetails c.extensions
  let signature ← require c.signature.octets? .signature
  return {
    authority, holder, issuer, fqans, signature
    holderSerial := reference.serial
    holderSubject := c.body.holder.names.bind GeneralName.firstDirectory?
    notBefore := c.body.validity.notBefore
    notAfter := c.body.validity.notAfter
    genericAttributes := details.genericAttributes
    targets := details.targets
    authorityChain := details.authorityChain
    certificate := c }

/-- What an encoded attribute certificate says. -/
def ofElement (e : Der.Element) : Except Fault Membership := do
  ofCertificate (← require (AttributeCertificate.ofElement? e) .encoding)

end GridAuthz.Membership
