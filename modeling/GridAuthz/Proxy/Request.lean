import GridAuthz.Credential
import GridAuthz.Membership.Chain
import GridAuthz.Proxy.Recognition

/-!
# Issuing proxies

The holder of a credential issues a proxy by signing a certificate for a new key. The subject of
the proxy is that of the issuer with one more common name, and the proxy does not outlive its
issuer. The result is a credential again, whose chain is that of the issuer with the proxy in
front, so it can issue further proxies.

The moment, the new key and the serial number are given from outside; everything else follows
from the request (`ProxyRequest.issue`). The moment is read off a clock, which may be wrong
(`ProxyRequest.issueAt`).
-/

namespace GridAuthz

/-- The rights that a proxy is given. -/
inductive Delegation where
  /-- All rights of the issuer. -/
  | full
  /-- The rights of the issuer but that of submitting jobs. -/
  | limited
  deriving DecidableEq

/-- What proxy to issue. -/
structure ProxyRequest where
  /-- How long the proxy is valid, unless the issuer expires before. -/
  lifetime : Duration := .ofSeconds (12 * 60 * 60)
  /-- The kind of proxy. -/
  kind : ProxyKind := .rfc3820
  /-- The rights of the proxy. -/
  delegation : Delegation := .full
  /-- The bits of the modulus of the new key. -/
  keyBits : Nat := 1024
  /-- How many proxies may follow below; legacy proxies cannot say that. -/
  pathLength : Option UInt32 := none
  /-- The attribute certificates that the proxy carries. -/
  certificates : List AttributeCertificate := []
  deriving DecidableEq

/-- Why a proxy is not issued. -/
inductive IssueError where
  /-- The key is too small. -/
  | keySize (bits : Nat)
  /-- The proxy would not be valid at any time. -/
  | noLifetime
  /-- The clock shows a moment before 1970. -/
  | clock
  /-- The end of the lifetime is too far away to be represented. -/
  | overflow
  /-- The certificate cannot be encoded. -/
  | encoding
  /-- The key of the issuer does not give a signature. -/
  | signature
  deriving DecidableEq

namespace ProxyRequest

/-- The fewest bits of a key. -/
def minKeyBits : Nat := 512

/-- How long before the moment of issue a proxy is valid, as clocks differ. -/
def backdating : Duration := .ofSeconds (5 * 60)

end ProxyRequest

/-- The text of the error. -/
def IssueError.message : IssueError → String
  | keySize bits =>
    s!"Proxy key size of {bits} bits is below the minimum of {ProxyRequest.minKeyBits} bits"
  | noLifetime =>
    "Failed to generate the proxy certificate: the lifetime must be greater than zero"
  | clock =>
    "Failed to generate the proxy certificate: second time provided was later than self"
  | overflow => "overflow when adding durations"
  | encoding => "Failed to generate the proxy certificate: it cannot be encoded"
  | signature =>
    "Failed to generate the proxy certificate: " ++ SignatureError.message .mismatch

namespace ProxyRequest

/-- The request with one attribute certificate more. -/
def withCertificate (r : ProxyRequest) (c : AttributeCertificate) : ProxyRequest :=
  { r with certificates := r.certificates ++ [c] }

/-- The request with more attribute certificates. -/
def withCertificates (r : ProxyRequest) (cs : List AttributeCertificate) : ProxyRequest :=
  { r with certificates := r.certificates ++ cs }

/-! ### Parts of the certificate -/

/-- The common name of a proxy. Those of legacy proxies are fixed, for the others the serial
number is taken. -/
def commonName (r : ProxyRequest) (serial : UInt32) : String :=
  match r.kind, r.delegation with
  | .legacy, .full => Proxy.legacyName
  | .legacy, .limited => Proxy.legacyLimitedName
  | _, _ => s!"{serial.toNat}"

/-- The subject of a proxy. -/
def subject (r : ProxyRequest) (issuer : Name) (serial : UInt32) : Name :=
  issuer.extend ⟨AttributeType.commonName, .ofUtf8 (r.commonName serial)⟩

/-- The extension that says what the key may be used for: signatures, and the encryption of
keys. -/
def keyUsage : Extension where
  id := ⟨[0x55, 0x1D, 0x0F], rfl⟩
  critical := true
  value := Der.BitString.toElement ⟨5, [0xA0], by decide, by decide⟩ |>.encode

/-- What the proxy says about itself. -/
def info (r : ProxyRequest) : ProxyCertInfo where
  pathLength := r.pathLength
  policy :=
    { language := match r.delegation with
        | .full => ProxyPolicy.inheritAll
        | .limited => ProxyPolicy.limited
      policy := none }

/-- The extension in which the proxy says what it is, except for legacy proxies. -/
def infoExtension? (r : ProxyRequest) : Option Extension :=
  match r.kind with
  | .legacy => none
  | .draft => some ⟨ProxyCertInfo.draftExtensionId, true, r.info.toDraftElement.encode⟩
  | .rfc3820 => some ⟨ProxyCertInfo.extensionId, true, r.info.toElement.encode⟩

/-- The extension with the attribute certificates, if there are any. -/
def membershipExtension? (r : ProxyRequest) : Option Extension :=
  if r.certificates.isEmpty then none
  else some ⟨Membership.extensionId, false,
    (Der.Element.sequenceOf AttributeCertificate.toElement r.certificates).encode⟩

/-- The extensions of the proxy. -/
def extensions (r : ProxyRequest) : List Extension :=
  keyUsage :: (r.infoExtension?.toList ++ r.membershipExtension?.toList)

/-- The last moment at which the proxy is valid: the end of its lifetime, or that of its issuer
if it comes first. -/
def expiry (r : ProxyRequest) (issuer : Certificate) (now : Duration) :
    Except IssueError Duration :=
  let last := now + r.lifetime
  if last.fits then .ok (min last issuer.notAfter) else .error .overflow

/-- When the proxy is valid. -/
def validity (r : ProxyRequest) (issuer : Certificate) (now : Duration) :
    Except IssueError Validity := do
  let last ← r.expiry issuer now
  match Der.Time.ofMoment? (now - backdating), Der.Time.ofMoment? last with
  | some notBefore, some notAfter => .ok ⟨notBefore, notAfter⟩
  | _, _ => .error .encoding

/-- The algorithm of the signatures that are made. -/
def signatureAlgorithm : AlgorithmIdentifier := ⟨Algorithm.sha256WithRsa, some ⟨.null, []⟩⟩

/-- The public key of a private key, as certificates hold it. -/
def publicKeyInfo (key : RsaPrivateKey) : PublicKeyInfo :=
  ⟨⟨Algorithm.rsaEncryption, some ⟨.null, []⟩⟩, .ofBytes key.publicElement.encode⟩

/-- What the issuer signs. -/
def body (r : ProxyRequest) (issuer : Certificate) (now : Duration) (key : RsaPrivateKey)
    (serial : UInt32) : Except IssueError CertificateBody := do
  let validity ← r.validity issuer now
  match SerialNumber.ofNat? serial.toNat with
  | none => .error .encoding
  | some serialNumber => .ok {
      version := .v3
      serialNumber
      signature := signatureAlgorithm
      issuer := issuer.subject
      validity
      subject := r.subject issuer.subject serial
      publicKey := publicKeyInfo key
      issuerUniqueId := none
      subjectUniqueId := none
      extensions := some r.extensions }

/-! ### Issuing -/

/-- Signs a body with the key of a credential. -/
def sign (signer : RsaPrivateKey) (body : CertificateBody) : Except IssueError Certificate :=
  match body.toElement.encode? with
  | none => .error .encoding
  | some message =>
    match signer.sign? .sha256 message with
    | none => .error .signature
    | some signature => .ok ⟨body, signatureAlgorithm, .ofBytes signature⟩

/-- A request that can be met asks for a large enough key and for some lifetime. -/
def check (r : ProxyRequest) : Except IssueError Unit :=
  if r.keyBits < minKeyBits then .error (.keySize r.keyBits)
  else if r.lifetime = .ofSeconds 0 then .error .noLifetime
  else .ok ()

/-- Issues a proxy for a new key, which is to have as many bits as requested. -/
def issue (r : ProxyRequest) (issuer : Credential) (now : Duration) (key : RsaPrivateKey)
    (serial : UInt32) : Except IssueError Credential := do
  r.check
  let body ← r.body issuer.leaf now key serial
  let proxy ← sign issuer.privateKey body
  return ⟨key, proxy, issuer.chain⟩

/-- Issues a proxy at the moment that a clock shows, in nanoseconds after the beginning of 1970. A
clock may show an earlier moment. -/
def issueAt (r : ProxyRequest) (issuer : Credential) (clock : Int) (key : RsaPrivateKey)
    (serial : UInt32) : Except IssueError Credential :=
  if 0 ≤ clock then r.issue issuer ⟨clock.toNat⟩ key serial
  else do
    r.check
    .error .clock

end ProxyRequest

end GridAuthz
