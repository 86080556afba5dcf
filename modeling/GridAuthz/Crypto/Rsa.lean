import GridAuthz.Crypto.Modular
import GridAuthz.Crypto.Sha2
import GridAuthz.Der.Primitive

/-!
# RSA signatures

A signature is a power of the padded digest of a message, with respect to the modulus of the
key. The padding (`RsaDigest.padded?`) names the digest and fills up the modulus, so that the
signer decides nothing but the message: verifying computes the one padded digest that the
signature may stand for and compares.
-/

namespace GridAuthz

/-! ### Digests -/

/-- A digest that signatures are made over. -/
inductive RsaDigest where
  /-- SHA-256. -/
  | sha256
  /-- SHA-384. -/
  | sha384
  /-- SHA-512. -/
  | sha512
  deriving DecidableEq

namespace RsaDigest

/-- The digest of a message. -/
def digest : RsaDigest → Bytes → Bytes
  | sha256 => Sha2.sha256
  | sha384 => Sha2.sha384
  | sha512 => Sha2.sha512

/-- The encoding that names the digest, up to the digest itself. -/
def header : RsaDigest → Bytes
  | sha256 => [0x30, 0x31, 0x30, 0x0D, 0x06, 0x09, 0x60, 0x86, 0x48, 0x01, 0x65, 0x03, 0x04, 0x02,
      0x01, 0x05, 0x00, 0x04, 0x20]
  | sha384 => [0x30, 0x41, 0x30, 0x0D, 0x06, 0x09, 0x60, 0x86, 0x48, 0x01, 0x65, 0x03, 0x04, 0x02,
      0x02, 0x05, 0x00, 0x04, 0x30]
  | sha512 => [0x30, 0x51, 0x30, 0x0D, 0x06, 0x09, 0x60, 0x86, 0x48, 0x01, 0x65, 0x03, 0x04, 0x02,
      0x03, 0x05, 0x00, 0x04, 0x40]

/-- The digest of a message with its name. -/
def named (d : RsaDigest) (message : Bytes) : Bytes := d.header ++ d.digest message

/-- The named digest of a message, padded to `size` bytes; at least eight bytes are padding. -/
def padded? (d : RsaDigest) (size : Nat) (message : Bytes) : Option Bytes :=
  let named := d.named message
  if named.length + 11 ≤ size then
    some (0x00 :: 0x01 :: (List.replicate (size - named.length - 3) 0xFF ++ 0x00 :: named))
  else none

end RsaDigest

/-! ### Public keys -/

/-- The bounds that the modulus and the public exponent of every key keep: both are odd, and the
exponent has at most 33 bits. -/
def isRsaKey (modulus exponent : Nat) : Bool :=
  modulus % 2 = 1 && exponent % 2 = 1 && 2 ≤ exponent && exponent.log2 < 33 && exponent < modulus

/-- The bounds of a public key, whose modulus also has at most 4096 bits. -/
def isRsaPublicKey (modulus exponent : Nat) : Bool :=
  modulus.log2 < 4096 && isRsaKey modulus exponent

/-- A public key. -/
structure RsaPublicKey where
  /-- The modulus. -/
  modulus : Nat
  /-- The exponent. -/
  exponent : Nat
  /-- Both are within their bounds. -/
  isKey : isRsaPublicKey modulus exponent = true
  deriving DecidableEq

namespace RsaPublicKey

/-- The key with the given numbers. -/
def ofNumbers? (modulus exponent : Nat) : Option RsaPublicKey :=
  if h : isRsaPublicKey modulus exponent = true then some ⟨modulus, exponent, h⟩ else none

/-- The element of a key with the given numbers. -/
def elementOf (modulus exponent : Nat) : Der.Element :=
  .sequence [.ofNat modulus, .ofNat exponent]

/-- The element of a key. -/
def toElement (k : RsaPublicKey) : Der.Element := elementOf k.modulus k.exponent

/-- The key of an element. -/
def ofElement? (e : Der.Element) : Option RsaPublicKey := do
  match ← e.sequence? with
  | [modulus, exponent] => ofNumbers? (← modulus.nat?) (← exponent.nat?)
  | _ => none

/-- The key that a byte string encodes. -/
def ofDer? (bytes : Bytes) : Option RsaPublicKey :=
  (Der.Element.decode? bytes).bind ofElement?

/-- The bytes of the modulus. -/
def size (k : RsaPublicKey) : Nat := Bytes.digitCount k.modulus

/-- A signature of a message: it is as long as the modulus and, as a number, below it, and its
power is the padded digest. -/
def verifies (k : RsaPublicKey) (d : RsaDigest) (message signature : Bytes) : Bool :=
  let s := Bytes.toNat signature
  signature.length = k.size && s < k.modulus &&
    d.padded? k.size message =
      some (Bytes.ofNatWidth k.size (Modular.powMod s k.exponent k.modulus))

end RsaPublicKey

end GridAuthz
