import GridAuthz.Certificate.Algorithm
import GridAuthz.Certificate.Extension
import GridAuthz.Certificate.SerialNumber
import GridAuthz.Der.SetOf
import GridAuthz.Der.Time
import GridAuthz.GeneralName

/-!
# Attribute certificates

An attribute certificate (RFC 5755) says which attributes the holder of another certificate
has. It is signed by an attribute authority.

    AttributeCertificate ::= SEQUENCE {
        acinfo               AttributeCertificateInfo,
        signatureAlgorithm   AlgorithmIdentifier,
        signatureValue       BIT STRING }

    AttributeCertificateInfo ::= SEQUENCE {
        version              AttCertVersion,                    -- v2(1)
        holder               Holder,
        issuer               AttCertIssuer,
        signature            AlgorithmIdentifier,
        serialNumber         CertificateSerialNumber,
        attrCertValidityPeriod AttCertValidityPeriod,
        attributes           SEQUENCE OF Attribute,
        issuerUniqueID       UniqueIdentifier OPTIONAL,
        extensions           Extensions OPTIONAL }

The signature is over the encoding of the first part (`AcBody`), which is made again from the
decoded value.
-/

namespace GridAuthz

/-! ### Holder and issuer -/

/-- A certificate, given by the names of its issuer and its number. -/
structure IssuerSerial where
  /-- The names of the issuer. -/
  issuer : List GeneralName
  /-- The number of the certificate. -/
  serial : SerialNumber
  /-- A number that tells issuers of one name apart. -/
  issuerUniqueId : Option Der.BitString
  deriving DecidableEq

namespace IssuerSerial

/-- The element of a reference to a certificate. -/
def toElement (r : IssuerSerial) : Der.Element :=
  .sequence ([GeneralName.listElement r.issuer, r.serial.toElement] ++
    (r.issuerUniqueId.map Der.BitString.toElement).toList)

/-- The reference of an element. -/
def ofElement? (e : Der.Element) : Option IssuerSerial := do
  match ← e.sequence? with
  | issuer :: serial :: rest =>
    let (uid, rest) ← Der.takeTagged? .bitString Der.BitString.ofElement? rest
    if rest.isEmpty then
      return ⟨← GeneralName.list? issuer, ← SerialNumber.ofElement? serial, uid⟩
    else none
  | _ => none

end IssuerSerial

/-- Whose attributes they are. -/
structure Holder where
  /-- The certificate of the holder. -/
  certificate : Option IssuerSerial
  /-- The names of the holder. -/
  names : Option (List GeneralName)
  deriving DecidableEq

namespace Holder

/-- The element of a holder. -/
def toElement (h : Holder) : Der.Element :=
  .sequence ((h.certificate.map fun r => r.toElement.retag (.contextConstructed 0)).toList ++
    (h.names.map fun ns => (GeneralName.listElement ns).retag (.contextConstructed 1)).toList)

/-- The holder of an element. -/
def ofElement? (e : Der.Element) : Option Holder := do
  let fields ← e.sequence?
  let (certificate, fields) ← Der.takeImplicit? 0 .sequence IssuerSerial.ofElement? fields
  let (names, fields) ← Der.takeImplicit? 1 .sequence GeneralName.list? fields
  if fields.isEmpty then return ⟨certificate, names⟩ else none

end Holder

/-- The authority that issues an attribute certificate: by its names alone, as in the first
version, or in the form of the second. -/
inductive AcIssuer where
  /-- The form of the first version. -/
  | v1 (names : List GeneralName)
  /-- The form of the second version, which may also give the certificate of the authority. -/
  | v2 (names : Option (List GeneralName)) (certificate : Option IssuerSerial)
  deriving DecidableEq

namespace AcIssuer

/-- The names of the authority. -/
def names : AcIssuer → List GeneralName
  | v1 names => names
  | v2 names _ => names.getD []

/-- The element of an issuer. -/
def toElement : AcIssuer → Der.Element
  | v1 names => GeneralName.listElement names
  | v2 names certificate =>
    (Der.Element.sequence ((names.map GeneralName.listElement).toList ++
      (certificate.map fun r => r.toElement.retag (.contextConstructed 0)).toList)).retag
        (.contextConstructed 0)

/-- Reads the fields of the form of the second version. -/
def v2OfElement? (e : Der.Element) : Option AcIssuer := do
  let fields ← e.sequence?
  let (names, fields) ← Der.takeTagged? .sequence GeneralName.list? fields
  let (certificate, fields) ← Der.takeImplicit? 0 .sequence IssuerSerial.ofElement? fields
  if fields.isEmpty then return v2 names certificate else none

/-- The issuer of an element. -/
def ofElement? (e : Der.Element) : Option AcIssuer :=
  if e.tag = .contextConstructed 0 then v2OfElement? (e.retag .sequence)
  else (GeneralName.list? e).map v1

end AcIssuer

/-! ### Validity and attributes -/

/-- The time from which an attribute certificate is valid and the time until which it is. -/
structure AcValidity where
  /-- The first moment. -/
  notBefore : DateTime
  /-- The last moment. -/
  notAfter : DateTime
  deriving DecidableEq

namespace AcValidity

/-- The element of a validity. -/
def toElement (v : AcValidity) : Der.Element :=
  .sequence [Der.generalizedTime v.notBefore, Der.generalizedTime v.notAfter]

/-- The validity of an element. -/
def ofElement? (e : Der.Element) : Option AcValidity := do
  match ← e.sequence? with
  | [notBefore, notAfter] =>
    return ⟨← Der.generalizedTime? notBefore, ← Der.generalizedTime? notAfter⟩
  | _ => none

end AcValidity

/-- A set of values of any type. -/
abbrev ValueSet := Der.SetOf Der.Element fun e => e.encode

/-- An attribute with its values. -/
structure AcAttribute where
  /-- The type of the attribute. -/
  kind : Oid
  /-- The values. -/
  values : ValueSet
  deriving DecidableEq

namespace AcAttribute

/-- The element of an attribute. -/
def toElement (a : AcAttribute) : Der.Element :=
  .sequence [a.kind.toElement, Der.SetOf.toElement (α := Der.Element) a.values]

/-- The attribute of an element. -/
def ofElement? (e : Der.Element) : Option AcAttribute := do
  match ← e.sequence? with
  | [kind, values] => return ⟨← Oid.ofElement? kind, ← Der.SetOf.ofElement? some values⟩
  | _ => none

end AcAttribute

/-! ### The certificate -/

/-- The part of an attribute certificate that the authority signs. -/
structure AcBody where
  /-- The version; the second is written as 1. -/
  version : UInt8
  /-- Whose attributes they are. -/
  holder : Holder
  /-- The authority. -/
  issuer : AcIssuer
  /-- The algorithm of the signature. -/
  signature : AlgorithmIdentifier
  /-- The number that the authority has given the certificate. -/
  serialNumber : SerialNumber
  /-- When the attributes may be used. -/
  validity : AcValidity
  /-- The attributes. -/
  attributes : List AcAttribute
  /-- A number that tells authorities of one name apart. -/
  issuerUniqueId : Option Der.BitString
  /-- The extensions. -/
  extensions : Option (List Extension)
  deriving DecidableEq

namespace AcBody

/-- The element of a body. -/
def toElement (b : AcBody) : Der.Element :=
  .sequence <|
    [.ofNat b.version.toNat, b.holder.toElement, b.issuer.toElement, b.signature.toElement,
      b.serialNumber.toElement, b.validity.toElement,
      .sequenceOf AcAttribute.toElement b.attributes] ++
    (b.issuerUniqueId.map Der.BitString.toElement).toList ++
    (b.extensions.map (Der.Element.sequenceOf Extension.toElement)).toList

/-- The body of an element. -/
def ofElement? (e : Der.Element) : Option AcBody := do
  match ← e.sequence? with
  | version :: holder :: issuer :: signature :: serialNumber :: validity :: attributes ::
      fields =>
    let (issuerUniqueId, fields) ←
      Der.takeTagged? .bitString Der.BitString.ofElement? fields
    let (extensions, fields) ←
      Der.takeTagged? .sequence (Der.Element.sequenceOf? Extension.ofElement?) fields
    if fields.isEmpty then
      return {
        version := UInt8.ofNat (← version.natBelow? 256)
        holder := ← Holder.ofElement? holder
        issuer := ← AcIssuer.ofElement? issuer
        signature := ← AlgorithmIdentifier.ofElement? signature
        serialNumber := ← SerialNumber.ofElement? serialNumber
        validity := ← AcValidity.ofElement? validity
        attributes := ← attributes.sequenceOf? AcAttribute.ofElement?
        issuerUniqueId, extensions }
    else none
  | _ => none

end AcBody

/-- An attribute certificate. -/
structure AttributeCertificate where
  /-- What is signed. -/
  body : AcBody
  /-- The algorithm that the signature is made with. -/
  signatureAlgorithm : AlgorithmIdentifier
  /-- The signature of the authority. -/
  signature : Der.BitString
  deriving DecidableEq

namespace AttributeCertificate

/-- The element of an attribute certificate. -/
def toElement (c : AttributeCertificate) : Der.Element :=
  .sequence [c.body.toElement, c.signatureAlgorithm.toElement, c.signature.toElement]

/-- The attribute certificate of an element. -/
def ofElement? (e : Der.Element) : Option AttributeCertificate := do
  match ← e.sequence? with
  | [body, algorithm, signature] =>
    return ⟨← AcBody.ofElement? body, ← AlgorithmIdentifier.ofElement? algorithm,
      ← Der.BitString.ofElement? signature⟩
  | _ => none

/-- The encoding of an attribute certificate. -/
def toDer (c : AttributeCertificate) : Bytes := c.toElement.encode

/-- The attribute certificate that a byte string encodes. -/
def ofDer? (bytes : Bytes) : Option AttributeCertificate :=
  (Der.Element.decode? bytes).bind ofElement?

/-- What the authority signs. -/
def signedBytes (c : AttributeCertificate) : Bytes := c.body.toElement.encode

/-- The extensions. -/
def extensions (c : AttributeCertificate) : List Extension := c.body.extensions.getD []

/-- The type of the attribute that holds the groups and roles of the holder. -/
def fqanAttributeId : Oid :=
  ⟨[0x2B, 0x06, 0x01, 0x04, 0x01, 0xBE, 0x45, 0x64, 0x64, 0x04], rfl⟩

/-- The attribute that holds the groups and roles of the holder. -/
def fqanAttribute? (c : AttributeCertificate) : Option AcAttribute :=
  c.body.attributes.find? (·.kind = fqanAttributeId)

end AttributeCertificate

end GridAuthz
