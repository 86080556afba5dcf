import GridAuthz.Crypto.Rsa.PrivateKey
import GridAuthz.Signature

/-!
# Private keys with their algorithm

A file of a private key says which algorithm the key is for. It may hold the public key too, as
the version of its format tells, and attributes, which do not matter here.
-/

namespace GridAuthz.RsaPrivateKey

/-- A field that is passed over: it holds one element in a context specific tag. -/
def isExtraField (e : Der.Element) : Bool :=
  e.tag.contextNumber?.isSome && e.explicit?.isSome

/-- The RSA key of an element that names its algorithm. A public key is there if and only if
the version is the second one. -/
def ofInfo? (e : Der.Element) : Option RsaPrivateKey := do
  match ← e.sequence? with
  | version :: algorithm :: key :: fields =>
    let version ← version.natBelow? 2
    let algorithm ← AlgorithmIdentifier.ofElement? algorithm
    let (publicKey, fields) ← Der.takeImplicit? 1 .bitString
      (fun e => (Der.BitString.ofElement? e).bind Der.BitString.octets?) fields
    if publicKey.isSome = (version = 1) ∧ fields.all isExtraField ∧
        algorithm.algorithm = Algorithm.rsaEncryption ∧ algorithm.hasNullParameters then
      ofDer? (← key.octets?)
    else none
  | _ => none

/-- The RSA key that a byte string encodes together with its algorithm. -/
def ofInfoDer? (bytes : Bytes) : Option RsaPrivateKey :=
  (Der.Element.decode? bytes).bind ofInfo?

end GridAuthz.RsaPrivateKey
