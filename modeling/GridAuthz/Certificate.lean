import GridAuthz.Certificate.Algorithm
import GridAuthz.Certificate.Extension
import GridAuthz.Certificate.SerialNumber
import GridAuthz.Der.Time
import GridAuthz.Name

/-!
# Certificates

A certificate binds a name to a public key for some time, by the signature of an issuer. The
signature is over the encoding of its body (`CertificateBody`), which is made again from the
decoded value whenever it is needed.
-/

namespace GridAuthz

/-- The version of the certificate format. -/
inductive CertificateVersion where
  /-- The first version, which is not written. -/
  | v1
  /-- The second version. -/
  | v2
  /-- The third version. -/
  | v3
  deriving DecidableEq

namespace CertificateVersion

/-- The number that stands for a version. -/
def code : CertificateVersion → Nat
  | v1 => 0
  | v2 => 1
  | v3 => 2

/-- The version of an element. -/
def ofElement? (e : Der.Element) : Option CertificateVersion :=
  match e.nat? with
  | some 0 => some v1
  | some 1 => some v2
  | some 2 => some v3
  | _ => none

end CertificateVersion

/-- The time from which a certificate is valid and the time until which it is. -/
structure Validity where
  /-- The first moment. -/
  notBefore : Der.Time
  /-- The last moment. -/
  notAfter : Der.Time
  deriving DecidableEq

namespace Validity

/-- The element of a validity. -/
def toElement (v : Validity) : Der.Element :=
  .sequence [v.notBefore.toElement, v.notAfter.toElement]

/-- The validity of an element. -/
def ofElement? (e : Der.Element) : Option Validity := do
  match ← e.sequence? with
  | [notBefore, notAfter] =>
    return ⟨← Der.Time.ofElement? notBefore, ← Der.Time.ofElement? notAfter⟩
  | _ => none

end Validity

/-- The part of a certificate that its issuer signs. -/
structure CertificateBody where
  /-- The version of the format. -/
  version : CertificateVersion
  /-- The number that the issuer has given the certificate. -/
  serialNumber : SerialNumber
  /-- The algorithm of the signature. -/
  signature : AlgorithmIdentifier
  /-- The issuer. -/
  issuer : Name
  /-- When the certificate is valid. -/
  validity : Validity
  /-- Whose key it is. -/
  subject : Name
  /-- The key. -/
  publicKey : PublicKeyInfo
  /-- A number that tells issuers of one name apart. -/
  issuerUniqueId : Option Der.BitString
  /-- A number that tells subjects of one name apart. -/
  subjectUniqueId : Option Der.BitString
  /-- The extensions. -/
  extensions : Option (List Extension)
  deriving DecidableEq

namespace CertificateBody

/-- The element of a body. -/
def toElement (b : CertificateBody) : Der.Element :=
  .sequence <|
    (if b.version = .v1 then [] else [Der.Element.explicit 0 (.ofNat b.version.code)]) ++
    [b.serialNumber.toElement, b.signature.toElement, b.issuer.toElement,
      b.validity.toElement, b.subject.toElement, b.publicKey.toElement] ++
    (b.issuerUniqueId.map fun u => u.toElement.retag (.contextPrimitive 1)).toList ++
    (b.subjectUniqueId.map fun u => u.toElement.retag (.contextPrimitive 2)).toList ++
    (b.extensions.map fun xs => Der.Element.explicit 3 (.sequenceOf Extension.toElement xs)).toList

/-- The body of an element. -/
def ofElement? (e : Der.Element) : Option CertificateBody := do
  let fields ← e.sequence?
  let (version, fields) ← Der.takeExplicit? 0 CertificateVersion.ofElement? fields
  match fields with
  | serialNumber :: signature :: issuer :: validity :: subject :: publicKey :: fields =>
    let (issuerUniqueId, fields) ←
      Der.takeImplicit? 1 .bitString Der.BitString.ofElement? fields
    let (subjectUniqueId, fields) ←
      Der.takeImplicit? 2 .bitString Der.BitString.ofElement? fields
    let (extensions, fields) ←
      Der.takeExplicit? 3 (Der.Element.sequenceOf? Extension.ofElement?) fields
    if fields.isEmpty then
      return {
        version := version.getD .v1
        serialNumber := ← SerialNumber.ofElement? serialNumber
        signature := ← AlgorithmIdentifier.ofElement? signature
        issuer := ← Name.ofElement? issuer
        validity := ← Validity.ofElement? validity
        subject := ← Name.ofElement? subject
        publicKey := ← PublicKeyInfo.ofElement? publicKey
        issuerUniqueId, subjectUniqueId, extensions }
    else none
  | _ => none

end CertificateBody

/-- A certificate. -/
structure Certificate where
  /-- What is signed. -/
  body : CertificateBody
  /-- The algorithm that the signature is made with. -/
  signatureAlgorithm : AlgorithmIdentifier
  /-- The signature of the issuer. -/
  signature : Der.BitString
  deriving DecidableEq

namespace Certificate

/-- The element of a certificate. -/
def toElement (c : Certificate) : Der.Element :=
  .sequence [c.body.toElement, c.signatureAlgorithm.toElement, c.signature.toElement]

/-- The certificate of an element. -/
def ofElement? (e : Der.Element) : Option Certificate := do
  match ← e.sequence? with
  | [body, algorithm, signature] =>
    return ⟨← CertificateBody.ofElement? body, ← AlgorithmIdentifier.ofElement? algorithm,
      ← Der.BitString.ofElement? signature⟩
  | _ => none

/-- The encoding of a certificate. -/
def toDer (c : Certificate) : Bytes := c.toElement.encode

/-- The certificate that a byte string encodes. -/
def ofDer? (bytes : Bytes) : Option Certificate :=
  (Der.Element.decode? bytes).bind ofElement?

/-- What the issuer signs. -/
def signedBytes (c : Certificate) : Bytes := c.body.toElement.encode

/-- Whose key it is. -/
def subject (c : Certificate) : Name := c.body.subject

/-- The issuer. -/
def issuer (c : Certificate) : Name := c.body.issuer

/-- The first moment at which the certificate is valid. -/
def notBefore (c : Certificate) : Duration := c.body.validity.notBefore.moment

/-- The last moment at which the certificate is valid. -/
def notAfter (c : Certificate) : Duration := c.body.validity.notAfter.moment

/-- The extensions. -/
def extensions (c : Certificate) : List Extension := c.body.extensions.getD []

/-- The certificate says that its subject is a certificate authority. -/
def isAuthority (c : Certificate) : Bool :=
  ((Extension.find? BasicConstraints.extensionId c.extensions).bind fun x =>
    BasicConstraints.ofDer? x.value).any (·.ca)

/-! ### Validity -/

/-- Why a certificate is not valid at a moment. -/
inductive ValidityError where
  /-- The moment is before the first valid one. -/
  | notYetValid
  /-- The moment is after the last valid one. -/
  | expired
  deriving DecidableEq

/-- The text of the error. -/
def ValidityError.message : ValidityError → String
  | notYetValid => "The certificate is not yet valid"
  | expired => "The certificate has expired"

/-- A certificate is valid from its first to its last moment, both included. -/
def checkValidity (c : Certificate) (now : Duration) : Except ValidityError Unit :=
  if now < c.notBefore then .error .notYetValid
  else if c.notAfter < now then .error .expired
  else .ok ()

/-- The certificate is valid at a moment. -/
def isValidAt (c : Certificate) (now : Duration) : Bool := (c.checkValidity now).isOk

end Certificate

end GridAuthz
