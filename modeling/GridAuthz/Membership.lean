import GridAuthz.AttributeCertificate.Values
import GridAuthz.Membership.PolicyAuthority

/-!
# Membership in virtual organisations

An attribute certificate of a virtual organisation says in which of its groups the holder is a
member, and in which roles.
-/

namespace GridAuthz

/-- An attribute with a name and a value, mostly about a virtual organisation. -/
structure GenericAttribute where
  /-- The name. -/
  name : String
  /-- The value. -/
  value : String
  /-- What the attribute is about. -/
  context : String
  deriving DecidableEq

/-- What an attribute certificate says about its holder. -/
structure Membership where
  /-- The virtual organisation with its server. -/
  authority : PolicyAuthority
  /-- The issuer of the holder's certificate. -/
  holder : Name
  /-- The number of the holder's certificate. -/
  holderSerial : SerialNumber
  /-- The subject of the holder's certificate, when it is given. -/
  holderSubject : Option Name
  /-- The attribute authority. -/
  issuer : Name
  /-- The first moment at which the attributes may be used. -/
  notBefore : DateTime
  /-- The last moment at which the attributes may be used. -/
  notAfter : DateTime
  /-- The groups and roles, in normal form. -/
  fqans : List String
  /-- The generic attributes. -/
  genericAttributes : List GenericAttribute
  /-- The hosts that the attributes are meant for; none when they are meant for all. -/
  targets : List String
  /-- The signature of the attribute authority. -/
  signature : Bytes
  /-- The certificates of the attribute authority, leaf first. -/
  authorityChain : List Certificate
  /-- The attribute certificate. -/
  certificate : AttributeCertificate
  deriving DecidableEq

namespace Membership

/-- The virtual organisation. -/
def vo (m : Membership) : String := m.authority.vo

/-- The host of the organisation's server. -/
def host (m : Membership) : String := m.authority.host

/-- The group or role that was asked for first. -/
def primaryFqan? (m : Membership) : Option String := m.fqans.head?

/-- The attributes may be used at a moment. -/
def isValidAt (m : Membership) (now : Duration) : Bool :=
  decide (m.notBefore.moment ≤ now) && decide (now ≤ m.notAfter.moment)

end Membership

end GridAuthz
