import GridAuthz.Certificate
import GridAuthz.Name.AttributeType
import GridAuthz.Proxy.CertInfo
import GridAuthz.Proxy.Kind

/-!
# Recognising proxies

Whether a certificate is a proxy depends on its extensions and on its name: the subject of a
proxy is the subject of its issuer with one more common name. Legacy proxies have no
extension, and the common name is one of two fixed texts.

In a chain with the leaf first, the proxies come before the end entity, the first certificate
that is not a proxy of the next (`endEntityIndex?`).
-/

namespace GridAuthz

/-- What a certificate says about itself as a proxy. -/
structure ProxyInfo where
  /-- The kind of proxy. -/
  kind : ProxyKind
  /-- Its rights are limited. -/
  limited : Bool
  /-- How many proxies may follow below. -/
  pathLength : Option UInt32
  deriving DecidableEq

/-- Why a certificate that claims to be a proxy is not acceptable. -/
inductive ProxyError where
  /-- The extension cannot be read. -/
  | malformed
  /-- The subject is not that of the issuer with one more common name. -/
  | name
  /-- The policy is in an unknown language. -/
  | language (language : Oid)
  deriving DecidableEq

/-- The text of the error. -/
def ProxyError.message : ProxyError → String
  | malformed => "the ProxyCertInfo extension is malformed"
  | name => "the subject is not the issuer subject extended with one CN"
  | language l => "the policy language " ++ l.toDotted ++ " is not supported"

namespace Proxy

/-- The common name of a legacy proxy with all rights. -/
def legacyName : String := "proxy"

/-- The common name of a legacy proxy with limited rights. -/
def legacyLimitedName : String := "limited proxy"

/-- The text of a common name. Its bytes are taken as UTF-8, whatever type of string it is. -/
def commonName? (a : NameAttribute) : Option String :=
  if a.kind = AttributeType.commonName ∧
      (a.value.tag = .utf8String ∨ a.value.tag = .printableString ∨ a.value.tag = .ia5String) then
    Bytes.toText? a.value.content
  else none

/-- The common name that the last relative name starts with. -/
def lastCommonName? (n : Name) : Option String := do
  commonName? (← (← n.parts.getLast?).members.head?)

/-- A name is another one with a relative name more that is just a common name. -/
def extendsByCommonName (subject issuer : Name) : Bool :=
  match subject.parts.getLast? with
  | none => false
  | some last =>
    last.members.length = 1 && (lastCommonName? subject).isSome &&
      Name.agrees ⟨subject.parts.dropLast⟩ issuer

/-- What a certificate without the extension is: a legacy proxy when its name says so. -/
def legacyInfo? (subject issuer : Name) : Option ProxyInfo :=
  if extendsByCommonName subject issuer then
    match lastCommonName? subject with
    | some name =>
      if name = legacyName then some ⟨.legacy, false, none⟩
      else if name = legacyLimitedName then some ⟨.legacy, true, none⟩
      else none
    | none => none
  else none

/-- Whether a policy language limits the rights. -/
def isLimited (language : Oid) : Except ProxyError Bool :=
  if language = ProxyPolicy.limited then .ok true
  else if language = ProxyPolicy.inheritAll ∨ language = ProxyPolicy.independent then .ok false
  else .error (.language language)

/-- The extension is one of the two that make a proxy. -/
def isInfoExtension (x : Extension) : Bool :=
  x.id = ProxyCertInfo.extensionId || x.id = ProxyCertInfo.draftExtensionId

/-- What an extension says. -/
def infoOfExtension (x : Extension) : Except ProxyError ProxyInfo := do
  let (kind, read?) := if x.id = ProxyCertInfo.extensionId
    then (ProxyKind.rfc3820, ProxyCertInfo.ofDer?) else (.draft, ProxyCertInfo.ofDraftDer?)
  match read? x.value with
  | none => .error .malformed
  | some info => return ⟨kind, ← isLimited info.policy.language, info.pathLength⟩

end Proxy

/-- What a certificate is as a proxy, `none` when it is not one. Without the issuer the name is
not looked at, and legacy proxies are not recognised. -/
def Certificate.proxyInfo (c : Certificate) (issuer : Option Certificate) :
    Except ProxyError (Option ProxyInfo) :=
  match c.extensions.find? Proxy.isInfoExtension with
  | none => .ok (issuer.bind fun issuer => Proxy.legacyInfo? c.subject issuer.subject)
  | some x => do
    let info ← Proxy.infoOfExtension x
    if issuer.all fun issuer => Proxy.extendsByCommonName c.subject issuer.subject then
      .ok (some info)
    else .error .name

/-! ### Chains -/

/-- What the certificates of a chain say up to the first that is not a proxy of the next. -/
def leadingProxies : List Certificate → List ProxyInfo
  | [] => []
  | c :: rest =>
    match c.proxyInfo rest.head? with
    | .ok (some info) => info :: leadingProxies rest
    | _ => []

/-- The index of the first certificate that is not a proxy of the next. -/
def endEntityIndex? (chain : List Certificate) : Option Nat :=
  let count := (leadingProxies chain).length
  if count < chain.length then some count else none

end GridAuthz
