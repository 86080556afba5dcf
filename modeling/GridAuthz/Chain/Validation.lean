import GridAuthz.Chain.ValidatedChain
import GridAuthz.Signature

/-!
# Validating certificate chains

A chain is accepted when each certificate is valid at the given moment and issued by the next,
the last one by a trust anchor. Proxies may stand before the end entity; from the end entity
on every issuer is a certificate authority, before it none is.

The checks are made in a fixed order, each over the whole chain, and the first that fails
decides the error (`validateChain`).
-/

namespace GridAuthz

namespace Chain

/-- All certificates are valid at a moment; the first is number `index`. -/
def checkValidity (now : Duration) : (index : Nat) → List Certificate → Except ChainError Unit
  | _, [] => .ok ()
  | index, c :: rest =>
    match c.checkValidity now with
    | .error .notYetValid => .error (.notYetValid index)
    | .error .expired => .error (.expired index)
    | .ok () => checkValidity now (index + 1) rest

/-- The first moment at which one of the certificates expires. -/
def earliestExpiry (c : Certificate) (rest : List Certificate) : Duration :=
  rest.foldl (fun d c => min d c.notAfter) c.notAfter

/-- A proxy is allowed at its place: not too many follow below, and neither it nor its issuer
is an authority. -/
def checkProxy (index : Nat) (info : ProxyInfo) (c issuer : Certificate) :
    Except ChainError Unit :=
  match info.pathLength.filter fun allowed => allowed.toNat < index with
  | some allowed => .error (.invalidProxy index (.tooDeep allowed))
  | none =>
    if c.isAuthority then .error (.invalidProxy index .authority)
    else if issuer.isAuthority then .error (.invalidProxy index .issuedByAuthority)
    else .ok ()

/-- All proxies of a chain are allowed at their places. -/
def checkProxies : (index : Nat) → List ProxyInfo → List Certificate → Except ChainError Unit
  | index, info :: infos, c :: issuer :: rest => do
    checkProxy index info c issuer
    checkProxies (index + 1) infos (issuer :: rest)
  | _, _, _ => .ok ()

/-- The certificate is signed with the key of its issuer. -/
def checkSignedBy (index : Nat) (c issuer : Certificate) : Except ChainError Unit :=
  match issuer.publicKey?, Signature.of? c.signatureAlgorithm c.signature with
  | some key, some signature =>
    if key.verifies c.signedBytes signature then .ok () else .error (.signature index)
  | _, _ => .error (.malformed index)

/-- The trust anchors that may have issued a certificate: those with the name of its issuer
that are valid at a moment. -/
def candidateAnchors (anchors : List Certificate) (now : Duration) (c : Certificate) :
    List Certificate :=
  anchors.filter fun anchor => anchor.subject.agrees c.issuer && anchor.isValidAt now

/-- The last certificate of a chain is signed with the key of a trust anchor. -/
def checkAnchored (anchors : List Certificate) (now : Duration) (index : Nat)
    (c : Certificate) : Except ChainError Unit :=
  let candidates := candidateAnchors anchors now c
  if candidates.isEmpty then .error (.untrustedIssuer c.issuer)
  else if candidates.any fun anchor => (checkSignedBy index c anchor).isOk then .ok ()
  else .error (.signature index)

/-- The certificate is issued by the next one, which has to be an authority from the end entity
on. -/
def checkIssuedBy (endEntity index : Nat) (c issuer : Certificate) : Except ChainError Unit :=
  if !c.issuer.agrees issuer.subject then .error (.nameChaining index)
  else if endEntity ≤ index && !issuer.isAuthority then .error (.issuerNotAuthority index)
  else checkSignedBy index c issuer

/-- Every certificate is issued by the next and the last by a trust anchor. -/
def checkIssuers (anchors : List Certificate) (now : Duration) (endEntity : Nat) :
    (index : Nat) → List Certificate → Except ChainError Unit
  | _, [] => .ok ()
  | index, [c] => checkAnchored anchors now index c
  | index, c :: issuer :: rest => do
    checkIssuedBy endEntity index c issuer
    checkIssuers anchors now endEntity (index + 1) (issuer :: rest)

/-- The end entity does not claim to be a proxy that it is not. -/
def checkEndEntity (endEntity : Nat) (chain : List Certificate) : Except ChainError Unit :=
  match chain.drop endEntity with
  | [] => .ok ()
  | c :: rest =>
    match c.proxyInfo rest.head? with
    | .error error => .error (.invalidProxy endEntity (.unacceptable error))
    | .ok _ => .ok ()

end Chain

/-- Validates a chain, leaf first, against a list of trust anchors. -/
def validateChain (anchors chain : List Certificate) (now : Duration) :
    Except ChainError ValidatedChain := do
  match chain with
  | [] => .error .empty
  | leaf :: rest =>
    Chain.checkValidity now 0 (leaf :: rest)
    let proxies := leadingProxies (leaf :: rest)
    match endEntityIndex? (leaf :: rest) with
    | none => .error (.invalidProxy rest.length .noEndEntity)
    | some endEntity =>
      Chain.checkProxies 0 proxies (leaf :: rest)
      Chain.checkEndEntity endEntity (leaf :: rest)
      Chain.checkIssuers anchors now endEntity 0 (leaf :: rest)
      return {
        endEntity
        proxyKind := proxies.head?.map (·.kind)
        limited := proxies.any (·.limited)
        notAfter := Chain.earliestExpiry leaf rest }

end GridAuthz
