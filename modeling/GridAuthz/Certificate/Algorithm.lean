import GridAuthz.Der.Primitive
import GridAuthz.Oid

/-!
# Algorithms and public keys

An algorithm is named by an object identifier, with parameters of whatever type the algorithm
asks for. A public key is a string of bits whose meaning its algorithm determines.
-/

namespace GridAuthz

/-- An algorithm with its parameters. -/
structure AlgorithmIdentifier where
  /-- The algorithm. -/
  algorithm : Oid
  /-- Its parameters. -/
  parameters : Option Der.Element
  deriving DecidableEq

namespace AlgorithmIdentifier

/-- The element of an algorithm. -/
def toElement (a : AlgorithmIdentifier) : Der.Element :=
  .sequence (a.algorithm.toElement :: a.parameters.toList)

/-- The algorithm of an element. -/
def ofElement? (e : Der.Element) : Option AlgorithmIdentifier := do
  match ← e.sequence? with
  | [algorithm] => return ⟨← Oid.ofElement? algorithm, none⟩
  | [algorithm, parameters] => return ⟨← Oid.ofElement? algorithm, some parameters⟩
  | _ => none

/-- The parameters are NULL. -/
def hasNullParameters (a : AlgorithmIdentifier) : Bool :=
  a.parameters = some ⟨.null, []⟩

end AlgorithmIdentifier

/-- A public key as certificates hold it. -/
structure PublicKeyInfo where
  /-- The algorithm that the key is for. -/
  algorithm : AlgorithmIdentifier
  /-- The key. -/
  key : Der.BitString
  deriving DecidableEq

namespace PublicKeyInfo

/-- The element of a public key. -/
def toElement (k : PublicKeyInfo) : Der.Element :=
  .sequence [k.algorithm.toElement, k.key.toElement]

/-- The public key of an element. -/
def ofElement? (e : Der.Element) : Option PublicKeyInfo := do
  match ← e.sequence? with
  | [algorithm, key] =>
    return ⟨← AlgorithmIdentifier.ofElement? algorithm, ← Der.BitString.ofElement? key⟩
  | _ => none

end PublicKeyInfo

end GridAuthz
