import GridAuthz.Der.Primitive
import GridAuthz.Oid

/-!
# Proxy certificate information

What a proxy certificate says about itself: the rights delegated to it, and how many proxies
may follow below it. The draft and the standard encode the same information with its parts in
different order, so there are two pairs of functions.

    ProxyCertInfo ::= SEQUENCE {                                -- standard
        pCPathLenConstraint  INTEGER (0..MAX) OPTIONAL,
        proxyPolicy          ProxyPolicy }

    ProxyCertInfo ::= SEQUENCE {                                -- draft
        proxyPolicy          ProxyPolicy,
        pCPathLenConstraint  [1] EXPLICIT INTEGER (0..MAX) OPTIONAL }

    ProxyPolicy ::= SEQUENCE {
        policyLanguage       OBJECT IDENTIFIER,
        policy               OCTET STRING OPTIONAL }
-/

namespace GridAuthz

/-- The rights delegated to a proxy. -/
structure ProxyPolicy where
  /-- The language that tells what the policy means. -/
  language : Oid
  /-- The policy in that language; the standard languages have none. -/
  policy : Option Bytes
  deriving DecidableEq

namespace ProxyPolicy

/-- The language of proxies that inherit all rights. -/
def inheritAll : Oid := ⟨[0x2B, 0x06, 0x01, 0x05, 0x05, 0x07, 0x15, 0x01], rfl⟩

/-- The language of proxies that inherit no rights. -/
def independent : Oid := ⟨[0x2B, 0x06, 0x01, 0x05, 0x05, 0x07, 0x15, 0x02], rfl⟩

/-- The language of proxies with limited rights. -/
def limited : Oid := ⟨[0x2B, 0x06, 0x01, 0x04, 0x01, 0x9B, 0x50, 0x01, 0x01, 0x01, 0x09], rfl⟩

/-- The element of a policy. -/
def toElement (p : ProxyPolicy) : Der.Element :=
  .sequence (p.language.toElement :: (p.policy.map Der.Element.ofOctets).toList)

/-- The policy of an element. -/
def ofElement? (e : Der.Element) : Option ProxyPolicy := do
  match ← e.sequence? with
  | [] => none
  | language :: rest =>
    let (policy, rest) ← Der.takeTagged? .octetString Der.Element.octets? rest
    if rest.isEmpty then return ⟨← Oid.ofElement? language, policy⟩ else none

end ProxyPolicy

/-- What a proxy certificate says about itself. -/
structure ProxyCertInfo where
  /-- How many proxies may follow below. -/
  pathLength : Option UInt32
  /-- The delegated rights. -/
  policy : ProxyPolicy
  deriving DecidableEq

namespace ProxyCertInfo

/-- The extension of the standard. -/
def extensionId : Oid := ⟨[0x2B, 0x06, 0x01, 0x05, 0x05, 0x07, 0x01, 0x0E], rfl⟩

/-- The extension of the draft. -/
def draftExtensionId : Oid :=
  ⟨[0x2B, 0x06, 0x01, 0x04, 0x01, 0x9B, 0x50, 0x01, 0x81, 0x5E], rfl⟩

/-- The element of a path length. -/
def pathLengthElement (n : UInt32) : Der.Element := .ofNat n.toNat

/-- The path length of an element. -/
def pathLength? (e : Der.Element) : Option UInt32 :=
  (e.natBelow? UInt32.size).map UInt32.ofNat

/-- The element that the standard asks for. -/
def toElement (i : ProxyCertInfo) : Der.Element :=
  .sequence ((i.pathLength.map pathLengthElement).toList ++ [i.policy.toElement])

/-- Reads the element of the standard. -/
def ofElement? (e : Der.Element) : Option ProxyCertInfo := do
  let (pathLength, rest) ← Der.takeTagged? .integer pathLength? (← e.sequence?)
  match rest with
  | [policy] => return ⟨pathLength, ← ProxyPolicy.ofElement? policy⟩
  | _ => none

/-- The element that the draft asks for. -/
def toDraftElement (i : ProxyCertInfo) : Der.Element :=
  .sequence (i.policy.toElement ::
    (i.pathLength.map fun n => (pathLengthElement n).explicit 1).toList)

/-- Reads the element of the draft. -/
def ofDraftElement? (e : Der.Element) : Option ProxyCertInfo := do
  match ← e.sequence? with
  | [] => none
  | policy :: rest =>
    let (pathLength, rest) ← Der.takeExplicit? 1 pathLength? rest
    if rest.isEmpty then return ⟨pathLength, ← ProxyPolicy.ofElement? policy⟩ else none

/-- The information that a byte string encodes as the standard asks for. -/
def ofDer? (bytes : Bytes) : Option ProxyCertInfo :=
  (Der.Element.decode? bytes).bind ofElement?

/-- The information that a byte string encodes as the draft asks for. -/
def ofDraftDer? (bytes : Bytes) : Option ProxyCertInfo :=
  (Der.Element.decode? bytes).bind ofDraftElement?

end ProxyCertInfo

end GridAuthz
