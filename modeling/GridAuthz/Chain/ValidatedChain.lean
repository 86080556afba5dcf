import GridAuthz.Calendar.Duration
import GridAuthz.Name.SlashForm
import GridAuthz.Proxy.Recognition

/-!
# Verdicts on certificate chains

What a chain validator finds out about a chain with the leaf first: that it is accepted, with
the place of its end entity, or why it is not. Certificates are counted from the leaf, which
is number 0.
-/

namespace GridAuthz

/-- What is known of an accepted chain. -/
structure ValidatedChain where
  /-- The index of the end entity. -/
  endEntity : Nat
  /-- The kind of the leaf, when it is a proxy. -/
  proxyKind : Option ProxyKind
  /-- The rights of some proxy are limited. -/
  limited : Bool
  /-- The first moment at which a certificate expires. -/
  notAfter : Duration
  deriving DecidableEq

/-- Why a certificate is not a proxy that its place in the chain allows. -/
inductive ProxyFault where
  /-- All certificates are proxies. -/
  | noEndEntity
  /-- More proxies follow below than are allowed. -/
  | tooDeep (allowed : UInt32)
  /-- The proxy is a certificate authority. -/
  | authority
  /-- The issuer of the proxy is a certificate authority. -/
  | issuedByAuthority
  /-- The certificate claims to be a proxy but is not acceptable as one. -/
  | unacceptable (error : ProxyError)
  deriving DecidableEq

/-- What is said about the proxy. -/
def ProxyFault.message : ProxyFault → String
  | noEndEntity => "the chain has no end-entity certificate"
  | tooDeep allowed => s!"the path length constraint of {allowed.toNat} is exceeded"
  | authority => "a proxy can not be a CA"
  | issuedByAuthority => "issued by a CA certificate"
  | unacceptable error => error.message

/-- Why a chain is rejected. -/
inductive ChainError where
  /-- There are no certificates. -/
  | empty
  /-- A certificate is not valid yet. -/
  | notYetValid (index : Nat)
  /-- A certificate is no longer valid. -/
  | expired (index : Nat)
  /-- A key or a signature cannot be read. -/
  | malformed (index : Nat)
  /-- The issuer of a certificate is not the subject of the next. -/
  | nameChaining (index : Nat)
  /-- The signature of a certificate is not one of its issuer. -/
  | signature (index : Nat)
  /-- The issuer of a certificate is not an authority. -/
  | issuerNotAuthority (index : Nat)
  /-- No trust anchor has the name of the last issuer. -/
  | untrustedIssuer (issuer : Name)
  /-- A proxy is not allowed where it stands. -/
  | invalidProxy (index : Nat) (fault : ProxyFault)
  deriving DecidableEq

/-- The text of the error. -/
def ChainError.message : ChainError → String
  | empty => "The certificate chain is empty"
  | notYetValid index => s!"Certificate {index} of the chain is not yet valid"
  | expired index => s!"Certificate {index} of the chain has expired"
  | malformed index => s!"Certificate {index} of the chain could not be decoded"
  | nameChaining index =>
    s!"The issuer of certificate {index} is not the subject of the next certificate"
  | signature index => s!"The signature of certificate {index} does not verify"
  | issuerNotAuthority index =>
    s!"Certificate {index} is issued by a certificate which is not a CA"
  | untrustedIssuer issuer => "No trust anchor is known for issuer " ++ issuer.toText
  | invalidProxy index fault =>
    s!"Certificate {index} is not a valid proxy: " ++ fault.message

end GridAuthz
