import GridAuthz.Certificate.Algorithm
import GridAuthz.Crypto.Aes
import GridAuthz.Crypto.KeyDerivation

/-!
# Encrypted private keys

A private key may be encrypted with a password. The password gives the key of a cipher by a
function that is named together with its arguments, as the cipher is (`KeyEncryption`).
-/

namespace GridAuthz

/-! ### Algorithms -/

namespace Algorithm

/-- Encryption with a password by a derived key. -/
def passwordEncryption : Oid := ⟨[0x2A, 0x86, 0x48, 0x86, 0xF7, 0x0D, 0x01, 0x05, 0x0D], rfl⟩

/-- Keys from iterated codes. -/
def pbkdf2 : Oid := ⟨[0x2A, 0x86, 0x48, 0x86, 0xF7, 0x0D, 0x01, 0x05, 0x0C], rfl⟩

/-- Keys from a table in memory. -/
def scrypt : Oid := ⟨[0x2B, 0x06, 0x01, 0x04, 0x01, 0xDA, 0x47, 0x04, 0x0B], rfl⟩

/-- Codes with SHA-224. -/
def hmacWithSha224 : Oid := ⟨[0x2A, 0x86, 0x48, 0x86, 0xF7, 0x0D, 0x02, 0x08], rfl⟩

/-- Codes with SHA-256. -/
def hmacWithSha256 : Oid := ⟨[0x2A, 0x86, 0x48, 0x86, 0xF7, 0x0D, 0x02, 0x09], rfl⟩

/-- Codes with SHA-384. -/
def hmacWithSha384 : Oid := ⟨[0x2A, 0x86, 0x48, 0x86, 0xF7, 0x0D, 0x02, 0x0A], rfl⟩

/-- Codes with SHA-512. -/
def hmacWithSha512 : Oid := ⟨[0x2A, 0x86, 0x48, 0x86, 0xF7, 0x0D, 0x02, 0x0B], rfl⟩

/-- AES in blocks that are chained, with a key of 16 bytes. -/
def aes128Chained : Oid := ⟨[0x60, 0x86, 0x48, 0x01, 0x65, 0x03, 0x04, 0x01, 0x02], rfl⟩

/-- AES in blocks that are chained, with a key of 24 bytes. -/
def aes192Chained : Oid := ⟨[0x60, 0x86, 0x48, 0x01, 0x65, 0x03, 0x04, 0x01, 0x16], rfl⟩

/-- AES in blocks that are chained, with a key of 32 bytes. -/
def aes256Chained : Oid := ⟨[0x60, 0x86, 0x48, 0x01, 0x65, 0x03, 0x04, 0x01, 0x2A], rfl⟩

end Algorithm

/-- The digest of an algorithm for codes, whose parameters have to be NULL. -/
def HmacDigest.ofAlgorithm? (a : AlgorithmIdentifier) : Option HmacDigest :=
  if !a.hasNullParameters then none
  else if a.algorithm = Algorithm.hmacWithSha224 then some .sha224
  else if a.algorithm = Algorithm.hmacWithSha256 then some .sha256
  else if a.algorithm = Algorithm.hmacWithSha384 then some .sha384
  else if a.algorithm = Algorithm.hmacWithSha512 then some .sha512
  else none

/-! ### Functions -/

/-- A function that makes a key from a password, with its arguments. -/
inductive KeyFunction where
  /-- Iterated codes. -/
  | pbkdf2 (digest : HmacDigest) (salt : Bytes) (iterations : Nat)
  /-- A table of `2 ^ logCost` entries in memory. -/
  | scrypt (salt : Bytes) (logCost blockSize parallel : Nat)
  deriving DecidableEq

namespace KeyFunction

/-- The key of `size` bytes that a password gives. -/
def key (f : KeyFunction) (password : Bytes) (size : Nat) : Bytes :=
  match f with
  | pbkdf2 digest salt iterations =>
    KeyDerivation.pbkdf2 digest password salt iterations size
  | scrypt salt logCost blockSize parallel =>
    KeyDerivation.scrypt password salt logCost blockSize parallel size

/-- The length that an optional INTEGER in front of a list of fields demands of a key. -/
def takeLength? : List Der.Element → Option (Option Nat × List Der.Element) :=
  Der.takeTagged? .integer (Der.Element.natBelow? UInt16.size)

/-- Iterated codes. The digest has to be named, as the one that is meant otherwise is not among
those known. -/
def ofIteration? (e : Der.Element) : Option (KeyFunction × Option Nat) := do
  match ← e.sequence? with
  | salt :: iterations :: fields =>
    match ← takeLength? fields with
    | (length, [digest]) =>
      return (pbkdf2 (← HmacDigest.ofAlgorithm? (← AlgorithmIdentifier.ofElement? digest))
        (← salt.octets?) (← iterations.natBelow? UInt32.size), length)
    | _ => none
  | _ => none

/-- A table in memory. The cost is a power of two with an exponent below 16 for each unit of the
block size, and the products of the arguments are bounded. -/
def ofTable? (e : Der.Element) : Option (KeyFunction × Option Nat) := do
  match ← e.sequence? with
  | salt :: cost :: blockSize :: parallel :: fields =>
    let salt ← salt.octets?
    let cost ← cost.natBelow? UInt64.size
    let blockSize ← blockSize.natBelow? UInt16.size
    let parallel ← parallel.natBelow? UInt16.size
    match ← takeLength? fields with
    | (length, []) =>
      if cost = 1 <<< cost.log2 ∧ cost.log2 < 16 * blockSize ∧ 0 < parallel ∧
          128 * blockSize * cost < UInt64.size ∧ blockSize * parallel < 0x40000000 then
        return (scrypt salt cost.log2 blockSize parallel, length)
      else none
    | _ => none
  | _ => none

/-- The function of an algorithm, with the length that it demands of the key, if any. -/
def ofAlgorithm? (a : AlgorithmIdentifier) : Option (KeyFunction × Option Nat) :=
  if a.algorithm = Algorithm.pbkdf2 then a.parameters.bind ofIteration?
  else if a.algorithm = Algorithm.scrypt then a.parameters.bind ofTable?
  else none

end KeyFunction

/-- The bytes of the key of a cipher. -/
def cipherKeySize? (cipher : Oid) : Option Nat :=
  if cipher = Algorithm.aes128Chained then some 16
  else if cipher = Algorithm.aes192Chained then some 24
  else if cipher = Algorithm.aes256Chained then some 32
  else none

/-! ### Encryption with a password -/

/-- How something is encrypted with a password. -/
structure KeyEncryption where
  /-- The function that makes the key of the cipher. -/
  function : KeyFunction
  /-- The bytes of that key. -/
  keySize : Nat
  /-- The block in front of the first block. -/
  initial : Bytes
  deriving DecidableEq

namespace KeyEncryption

/-- The encryption that an algorithm names. -/
def ofAlgorithm? (a : AlgorithmIdentifier) : Option KeyEncryption := do
  if a.algorithm ≠ Algorithm.passwordEncryption then none
  else match ← (← a.parameters).sequence? with
    | [function, cipher] =>
      let (function, length) ←
        KeyFunction.ofAlgorithm? (← AlgorithmIdentifier.ofElement? function)
      let cipher ← AlgorithmIdentifier.ofElement? cipher
      let keySize ← cipherKeySize? cipher.algorithm
      let initial ← (← cipher.parameters).octets?
      if initial.length = 16 ∧ length.all (· = keySize) then
        return { function, keySize, initial }
      else none
    | _ => none

/-- What was encrypted. -/
def decrypt? (k : KeyEncryption) (password : String) (bytes : Bytes) : Option Bytes :=
  Aes.decrypt? (k.function.key (Bytes.ofText password) k.keySize) k.initial bytes

/-- What an encrypted private key holds. -/
def decryptDer? (password : String) (bytes : Bytes) : Option Bytes := do
  match ← (← Der.Element.decode? bytes).sequence? with
  | [algorithm, contents] =>
    let k ← ofAlgorithm? (← AlgorithmIdentifier.ofElement? algorithm)
    k.decrypt? password (← contents.octets?)
  | _ => none

end KeyEncryption

end GridAuthz
