import GridAuthz.Crypto.Sha2

/-!
# Message authentication codes

A message authentication code is a digest with a key. The key, filled up to a block of the
digest, goes in front of the message; the digest of both goes behind the key once more. The
key is masked differently each time.
-/

namespace GridAuthz

/-- A digest that codes are made with. -/
inductive HmacDigest where
  /-- SHA-224. -/
  | sha224
  /-- SHA-256. -/
  | sha256
  /-- SHA-384. -/
  | sha384
  /-- SHA-512. -/
  | sha512
  deriving DecidableEq

namespace HmacDigest

/-- The digest of a message. -/
def digest : HmacDigest → Bytes → Bytes
  | sha224 => Sha2.sha224
  | sha256 => Sha2.sha256
  | sha384 => Sha2.sha384
  | sha512 => Sha2.sha512

/-- The bytes of a block. -/
def blockSize : HmacDigest → Nat
  | sha224 | sha256 => 64
  | sha384 | sha512 => 128

/-- The bytes of a digest. -/
def size : HmacDigest → Nat
  | sha224 => 28
  | sha256 => 32
  | sha384 => 48
  | sha512 => 64

/-- A key of one block: a longer key is replaced by its digest, a shorter one is filled up with
zeros. -/
def blockKey (d : HmacDigest) (key : Bytes) : Bytes :=
  let key := if d.blockSize < key.length then d.digest key else key
  key ++ List.replicate (d.blockSize - key.length) 0

/-- The code of a message. -/
def mac (d : HmacDigest) (key message : Bytes) : Bytes :=
  let key := d.blockKey key
  d.digest (key.map (· ^^^ 0x5C) ++ d.digest (key.map (· ^^^ 0x36) ++ message))

end HmacDigest

end GridAuthz
