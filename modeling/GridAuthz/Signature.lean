import GridAuthz.Certificate
import GridAuthz.Crypto.P256
import GridAuthz.Crypto.Rsa

/-!
# Signatures

The keys and signatures of certificates: RSA with one of three digests, and the curve P-256
with SHA-256. A signature verifies only under a key of its own kind.
-/

namespace GridAuthz

namespace Algorithm

/-- RSA keys. -/
def rsaEncryption : Oid := ⟨[0x2A, 0x86, 0x48, 0x86, 0xF7, 0x0D, 0x01, 0x01, 0x01], rfl⟩

/-- RSA signatures over SHA-256. -/
def sha256WithRsa : Oid := ⟨[0x2A, 0x86, 0x48, 0x86, 0xF7, 0x0D, 0x01, 0x01, 0x0B], rfl⟩

/-- RSA signatures over SHA-384. -/
def sha384WithRsa : Oid := ⟨[0x2A, 0x86, 0x48, 0x86, 0xF7, 0x0D, 0x01, 0x01, 0x0C], rfl⟩

/-- RSA signatures over SHA-512. -/
def sha512WithRsa : Oid := ⟨[0x2A, 0x86, 0x48, 0x86, 0xF7, 0x0D, 0x01, 0x01, 0x0D], rfl⟩

/-- Keys on elliptic curves. -/
def ecPublicKey : Oid := ⟨[0x2A, 0x86, 0x48, 0xCE, 0x3D, 0x02, 0x01], rfl⟩

/-- Signatures on elliptic curves over SHA-256. -/
def ecdsaWithSha256 : Oid := ⟨[0x2A, 0x86, 0x48, 0xCE, 0x3D, 0x04, 0x03, 0x02], rfl⟩

end Algorithm

/-- A signature. -/
inductive Signature where
  /-- An RSA signature over a digest. -/
  | rsa (digest : RsaDigest) (bytes : Bytes)
  /-- A signature on P-256. -/
  | ecdsa (signature : P256.Signature)
  deriving DecidableEq

namespace Signature

/-- The digest of an algorithm for RSA signatures. -/
def rsaDigest? (algorithm : Oid) : Option RsaDigest :=
  if algorithm = Algorithm.sha256WithRsa then some .sha256
  else if algorithm = Algorithm.sha384WithRsa then some .sha384
  else if algorithm = Algorithm.sha512WithRsa then some .sha512
  else none

/-- The signature that a bit string holds for an algorithm, whose parameters do not matter. -/
def of? (algorithm : AlgorithmIdentifier) (bits : Der.BitString) : Option Signature := do
  let bytes ← bits.octets?
  if algorithm.algorithm = Algorithm.ecdsaWithSha256 then
    (P256.Signature.ofDer? bytes).map ecdsa
  else (rsaDigest? algorithm.algorithm).map fun digest => rsa digest bytes

end Signature

/-- A public key. -/
inductive PublicKey where
  /-- An RSA key. -/
  | rsa (key : RsaPublicKey)
  /-- A point of P-256. -/
  | ecdsa (point : P256.Point)
  deriving DecidableEq

namespace PublicKey

/-- The key that a certificate holds. For a point the parameters of the algorithm do not
matter. -/
def ofInfo? (info : PublicKeyInfo) : Option PublicKey := do
  let bytes ← info.key.octets?
  if info.algorithm.algorithm = Algorithm.ecPublicKey then
    (P256.Point.ofBytes? bytes).map ecdsa
  else if info.algorithm.algorithm = Algorithm.rsaEncryption then
    (RsaPublicKey.ofDer? bytes).map rsa
  else none

/-- A signature of a message by the holder of a key. -/
def verifies (key : PublicKey) (message : Bytes) (signature : Signature) : Bool :=
  match key, signature with
  | rsa key, .rsa digest bytes => key.verifies digest message bytes
  | ecdsa point, .ecdsa signature => P256.verifies point message signature
  | _, _ => false

end PublicKey

/-- The key of a certificate's subject. -/
def Certificate.publicKey? (c : Certificate) : Option PublicKey :=
  PublicKey.ofInfo? c.body.publicKey

/-- Why a signature is refused. -/
inductive SignatureError where
  /-- The key is of no known kind or malformed. -/
  | key
  /-- The signature is of no known kind or malformed. -/
  | signature
  /-- The signature is not one of the message by the key. -/
  | mismatch
  deriving DecidableEq

/-- The text of the error. -/
def SignatureError.message : SignatureError → String
  | key => "An error occurred decoding the key from a certificate"
  | signature => "An error occurred decoding a signature"
  | mismatch => "The signature does not match with the verifying key"

end GridAuthz
