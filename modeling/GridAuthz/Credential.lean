import GridAuthz.Certificate.Pem
import GridAuthz.FileTree
import GridAuthz.PrivateKey.Encryption
import GridAuthz.PrivateKey.Info

/-!
# Credentials

A credential is a private key with the certificates that belong to it, the leaf first. It has
at least one certificate, and the key of the leaf is the public key of the private key.

A credential is read from two texts, one with the certificates and one with the private key,
which may be the same. If the private key is encrypted, reading stops there
(`CredentialText.locked`) until a password is given.
-/

namespace GridAuthz

/-- Why there is no credential. -/
inductive CredentialError where
  /-- A file cannot be read. -/
  | file (error : FileError)
  /-- A text is not PEM, or a certificate is malformed. -/
  | text (error : CertificateTextError)
  /-- There is no private key. -/
  | noPrivateKey
  /-- The private key is of an unknown kind. -/
  | unknownLabel (label : String)
  /-- The private key is malformed, or the password is wrong. -/
  | malformedKey
  /-- The private key, which is for RSA by its label, is malformed. -/
  | malformedRsaKey
  /-- The private key is encrypted and there is no password. -/
  | noPassword
  /-- There is no certificate. -/
  | noCertificate
  /-- The key of the leaf is of an unknown kind or malformed. -/
  | leafKey
  /-- The private key does not belong to the leaf. -/
  | mismatch
  deriving DecidableEq

/-- The text of the error. -/
def CredentialError.message : CredentialError → String
  | file error => "I/O error: " ++ error.message
  | text _ => "The certificates or the private key are not PEM text"
  | noPrivateKey => "No PEM encoded private key was found"
  | unknownLabel label => "Unsupported private key PEM label \"" ++ label ++ "\""
  | malformedKey | malformedRsaKey => "The private key is malformed"
  | noPassword => "The private key is encrypted and no password was provided"
  | noCertificate => "The credential does not hold any certificate"
  | leafKey => SignatureError.message .key
  | mismatch => "The credential private key does not match its certificate"

/-- The certificate holds the public key of a private key. -/
def RsaPrivateKey.isKeyOf (key : RsaPrivateKey) (c : Certificate) : Bool :=
  match key.publicKey?, c.publicKey? with
  | some publicKey, some found => found = .rsa publicKey
  | _, _ => false

/-- A private key with the certificates that belong to it. -/
structure Credential where
  /-- The private key. -/
  privateKey : RsaPrivateKey
  /-- The certificate of the key. -/
  leaf : Certificate
  /-- The further certificates of the chain, each the issuer of the one before. -/
  issuers : List Certificate
  deriving DecidableEq

namespace Credential

/-- The certificates, leaf first. -/
def chain (c : Credential) : List Certificate := c.leaf :: c.issuers

/-- Puts a private key and certificates together. -/
def ofChain (key : RsaPrivateKey) (chain : List Certificate) :
    Except CredentialError Credential :=
  match chain with
  | [] => .error .noCertificate
  | leaf :: issuers =>
    if leaf.publicKey?.isNone then .error .leafKey
    else if key.isKeyOf leaf then .ok ⟨key, leaf, issuers⟩
    else .error .mismatch

end Credential

/-! ### Texts -/

/-- What the texts of a credential hold. -/
inductive CredentialText where
  /-- Certificates with their private key. -/
  | clear (chain : List Certificate) (key : RsaPrivateKey)
  /-- Certificates with the encoding of an encrypted private key. -/
  | locked (chain : List Certificate) (contents : Bytes)
  deriving DecidableEq

namespace CredentialText

/-- The label of a private key with its algorithm. -/
def keyLabel : String := "PRIVATE KEY"

/-- The label of a private key for RSA. -/
def rsaKeyLabel : String := "RSA PRIVATE KEY"

/-- The label of an encrypted private key. -/
def encryptedKeyLabel : String := "ENCRYPTED PRIVATE KEY"

/-- The labels of private keys of all kinds end alike. -/
def isKeyLabel (label : String) : Bool := keyLabel.toList.isSuffixOf label.toList

/-- What the block of a private key holds, together with certificates. -/
def ofBlock (chain : List Certificate) (block : PemBlock) :
    Except CredentialError CredentialText :=
  if block.label = keyLabel then
    match RsaPrivateKey.ofInfoDer? block.contents with
    | some key => .ok (clear chain key)
    | none => .error .malformedKey
  else if block.label = rsaKeyLabel then
    match RsaPrivateKey.ofDer? block.contents with
    | some key => .ok (clear chain key)
    | none => .error .malformedRsaKey
  else if block.label = encryptedKeyLabel then .ok (locked chain block.contents)
  else .error (.unknownLabel block.label)

/-- Reads the texts of the certificates and of the private key. The first private key counts. -/
def read (certificates key : String) : Except CredentialError CredentialText := do
  let chain ← (Certificate.readPem certificates).mapError .text
  let blocks ← (Pem.read key).mapError fun error => .text (.pem error)
  match blocks.find? fun block => isKeyLabel block.label with
  | some block => ofBlock chain block
  | none => .error .noPrivateKey

/-- A password is needed. -/
def isLocked : CredentialText → Bool
  | clear _ _ => false
  | locked _ _ => true

/-- The credential, given the password if there is one. -/
def unlock (password : Option String) : CredentialText → Except CredentialError Credential
  | clear chain key => Credential.ofChain key chain
  | locked chain contents =>
    match password with
    | none => .error .noPassword
    | some password =>
      match (KeyEncryption.decryptDer? password contents).bind RsaPrivateKey.ofInfoDer? with
      | some key => Credential.ofChain key chain
      | none => .error .malformedKey

end CredentialText

/-- Reads a credential from the texts of its certificates and of its private key. -/
def Credential.readPem (certificates key : String) (password : Option String) :
    Except CredentialError Credential := do
  (← CredentialText.read certificates key).unlock password

/-- The text of a credential, as proxies are kept in files: the leaf, its private key, and the
further certificates. -/
def Credential.toPem (c : Credential) : String :=
  Pem.write <| c.leaf.toBlock :: ⟨CredentialText.rsaKeyLabel, c.privateKey.toDer⟩ ::
    c.issuers.map Certificate.toBlock

/-! ### Files -/

/-- Where a credential is. -/
inductive CredentialSource where
  /-- Nowhere. -/
  | nowhere
  /-- In the file of the certificates and that of the private key. -/
  | files (certificates key : String)
  deriving DecidableEq

namespace CredentialSource

/-- The texts of the credential, if it is anywhere. -/
def read (tree : FileTree) : CredentialSource → Except CredentialError (Option CredentialText)
  | nowhere => .ok none
  | files certificates key => do
    let certificates ← (tree.readText certificates).mapError .file
    let key ← (tree.readText key).mapError .file
    return some (← CredentialText.read certificates key)

/-- The credential, if it is anywhere. -/
def credential (tree : FileTree) (password : Option String) (source : CredentialSource) :
    Except CredentialError (Option Credential) := do
  (← source.read tree).mapM (·.unlock password)

end CredentialSource

end GridAuthz
