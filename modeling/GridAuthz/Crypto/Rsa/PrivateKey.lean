import GridAuthz.Crypto.Rsa

/-!
# RSA private keys

A private key knows the two primes whose product is the modulus, and an exponent that undoes
the public one. Nothing checks that the two are primes and that they differ. Before a signature is
given out it is tried with the public exponent, so `sign?` never gives one that does not verify.
-/

namespace GridAuthz

/-- The modulus is the product of the primes, and the product of the exponents leaves the
remainder one by either prime less one. -/
def isRsaPair (modulus exponent privateExponent firstPrime secondPrime : Nat) : Bool :=
  firstPrime * secondPrime = modulus &&
    exponent * privateExponent % (firstPrime - 1) = 1 &&
    exponent * privateExponent % (secondPrime - 1) = 1

/-- A private key with its public key. -/
structure RsaPrivateKey where
  /-- The modulus. -/
  modulus : Nat
  /-- The exponent of the public key. -/
  exponent : Nat
  /-- The exponent that signatures are made with. -/
  privateExponent : Nat
  /-- One prime. -/
  firstPrime : Nat
  /-- The other prime. -/
  secondPrime : Nat
  /-- The numbers belong together. -/
  isPair : isRsaPair modulus exponent privateExponent firstPrime secondPrime = true
  deriving DecidableEq

namespace RsaPrivateKey

/-- The key with the given numbers. -/
def ofNumbers? (modulus exponent privateExponent firstPrime secondPrime : Nat) :
    Option RsaPrivateKey :=
  if h : isRsaPair modulus exponent privateExponent firstPrime secondPrime = true then
    some ⟨modulus, exponent, privateExponent, firstPrime, secondPrime, h⟩
  else none

/-- The public key, if it is within the bounds of one. -/
def publicKey? (k : RsaPrivateKey) : Option RsaPublicKey :=
  RsaPublicKey.ofNumbers? k.modulus k.exponent

/-- The element of the public key. -/
def publicElement (k : RsaPrivateKey) : Der.Element :=
  RsaPublicKey.elementOf k.modulus k.exponent

/-! ### Encoding -/

/-- The element of a key: a version, the numbers of the key, and three more that speed up
signing. -/
def toElement (k : RsaPrivateKey) : Der.Element :=
  .sequence <| [0, k.modulus, k.exponent, k.privateExponent, k.firstPrime, k.secondPrime,
    k.privateExponent % (k.firstPrime - 1), k.privateExponent % (k.secondPrime - 1),
    Modular.inverse k.secondPrime k.firstPrime].map .ofNat

/-- The encoding of a key. -/
def toDer (k : RsaPrivateKey) : Bytes := k.toElement.encode

/-- The key of an element. The last three numbers may have any value. -/
def ofElement? (e : Der.Element) : Option RsaPrivateKey := do
  match ← (← e.sequence?).mapM Der.Element.nat? with
  | [0, modulus, exponent, privateExponent, firstPrime, secondPrime, _, _, _] =>
    if isRsaKey modulus exponent then
      ofNumbers? modulus exponent privateExponent firstPrime secondPrime
    else none
  | _ => none

/-- The key that a byte string encodes. -/
def ofDer? (bytes : Bytes) : Option RsaPrivateKey :=
  (Der.Element.decode? bytes).bind ofElement?

/-! ### Signing -/

/-- The bytes of the modulus. -/
def size (k : RsaPrivateKey) : Nat := Bytes.digitCount k.modulus

/-- A power of a number with the private exponent. It is put together from its remainders by either
prime, for which the exponent is reduced; if the two have a common factor, it is taken with
respect to the modulus. Both give the same as long as the primes are two primes. -/
def power (k : RsaPrivateKey) (base : Nat) : Nat :=
  if Nat.gcd k.firstPrime k.secondPrime = 1 then
    let first := Modular.powMod base (k.privateExponent % (k.firstPrime - 1)) k.firstPrime
    let second := Modular.powMod base (k.privateExponent % (k.secondPrime - 1)) k.secondPrime
    let difference := first + k.firstPrime - second % k.firstPrime
    difference * Modular.inverse k.secondPrime k.firstPrime % k.firstPrime * k.secondPrime + second
  else Modular.powMod base k.privateExponent k.modulus

/-- The signature of a message: a power of its padded digest, if the public exponent takes that
back. -/
def sign? (k : RsaPrivateKey) (d : RsaDigest) (message : Bytes) : Option Bytes := do
  let digest := Bytes.toNat (← d.padded? k.size message)
  let signature := k.power digest
  if Modular.powMod signature k.exponent k.modulus = digest then
    some (Bytes.ofNatWidth k.size signature)
  else none

end RsaPrivateKey

end GridAuthz
