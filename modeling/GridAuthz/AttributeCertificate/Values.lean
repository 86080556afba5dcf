import GridAuthz.AttributeCertificate
import GridAuthz.Certificate

/-!
# Values in attribute certificates

What the attributes and the extensions of an attribute certificate hold: the groups and roles
of the holder, the certificates of the authority, generic attributes, and the targets that the
attributes are meant for.
-/

namespace GridAuthz

/-! ### Groups and roles -/

/-- One value of an attribute with a policy authority. -/
inductive PolicyValue where
  /-- Bytes. -/
  | octets (bytes : Bytes)
  /-- An object identifier. -/
  | oid (id : Oid)
  /-- A text. -/
  | text (text : String)
  deriving DecidableEq

namespace PolicyValue

/-- The element of a value. -/
def toElement : PolicyValue → Der.Element
  | octets bytes => .ofOctets bytes
  | oid id => id.toElement
  | text s => .ofUtf8 s

/-- The value of an element. -/
def ofElement? (e : Der.Element) : Option PolicyValue :=
  if e.tag = .octetString then some (octets e.content)
  else if e.tag = .objectIdentifier then (Oid.ofElement? e).map oid
  else e.utf8?.map text

end PolicyValue

/-- Values with the authority that gives them their meaning.

    IetfAttrSyntax ::= SEQUENCE {
        policyAuthority [0] GeneralNames OPTIONAL,
        values SEQUENCE OF CHOICE {
            octets  OCTET STRING,
            oid     OBJECT IDENTIFIER,
            string  UTF8String } }
-/
structure PolicyValues where
  /-- The names of the authority. -/
  authority : Option (List GeneralName)
  /-- The values. -/
  values : List PolicyValue
  deriving DecidableEq

namespace PolicyValues

/-- The element of values with their authority. -/
def toElement (v : PolicyValues) : Der.Element :=
  .sequence
    ((v.authority.map fun ns => (GeneralName.listElement ns).retag (.contextConstructed 0)).toList
      ++ [.sequenceOf PolicyValue.toElement v.values])

/-- The values of an element. -/
def ofElement? (e : Der.Element) : Option PolicyValues := do
  let (authority, fields) ← Der.takeImplicit? 0 .sequence GeneralName.list? (← e.sequence?)
  match fields with
  | [values] => return ⟨authority, ← values.sequenceOf? PolicyValue.ofElement?⟩
  | _ => none

end PolicyValues

/-! ### Certificates of the authority -/

namespace AuthorityCertificates

/-- The extension that holds the certificates of the authority. -/
def extensionId : Oid := ⟨[0x2B, 0x06, 0x01, 0x04, 0x01, 0xBE, 0x45, 0x64, 0x64, 0x0A], rfl⟩

/-- The element of a chain of certificates, leaf first. -/
def toElement (chain : List Certificate) : Der.Element :=
  .sequence [.sequenceOf Certificate.toElement chain]

/-- The chain of an element. -/
def ofElement? (e : Der.Element) : Option (List Certificate) := do
  match ← e.sequence? with
  | [chain] => chain.sequenceOf? Certificate.ofElement?
  | _ => none

/-- The chain that a byte string encodes. -/
def ofDer? (bytes : Bytes) : Option (List Certificate) :=
  (Der.Element.decode? bytes).bind ofElement?

end AuthorityCertificates

/-! ### Generic attributes -/

/-- A generic attribute as it is encoded. -/
structure GenericTag where
  /-- The name of the attribute. -/
  name : Bytes
  /-- Its value. -/
  value : Bytes
  /-- What it is about, mostly the virtual organisation. -/
  qualifier : Bytes
  deriving DecidableEq

namespace GenericTag

/-- The element of a generic attribute. -/
def toElement (t : GenericTag) : Der.Element :=
  .sequence [.ofOctets t.name, .ofOctets t.value, .ofOctets t.qualifier]

/-- The generic attribute of an element. -/
def ofElement? (e : Der.Element) : Option GenericTag := do
  match ← e.sequence? with
  | [name, value, qualifier] => return ⟨← name.octets?, ← value.octets?, ← qualifier.octets?⟩
  | _ => none

end GenericTag

/-- Generic attributes with the authority that gives them. -/
structure TagList where
  /-- The names of the authority. -/
  authority : List GeneralName
  /-- The attributes. -/
  tags : List GenericTag
  deriving DecidableEq

namespace TagList

/-- The extension that holds lists of generic attributes. -/
def extensionId : Oid := ⟨[0x2B, 0x06, 0x01, 0x04, 0x01, 0xBE, 0x45, 0x64, 0x64, 0x0B], rfl⟩

/-- The element of a list of generic attributes. -/
def toElement (l : TagList) : Der.Element :=
  .sequence [GeneralName.listElement l.authority, .sequenceOf GenericTag.toElement l.tags]

/-- The list of an element. -/
def ofElement? (e : Der.Element) : Option TagList := do
  match ← e.sequence? with
  | [authority, tags] =>
    return ⟨← GeneralName.list? authority, ← tags.sequenceOf? GenericTag.ofElement?⟩
  | _ => none

/-- The element of several lists. -/
def listsElement (lists : List TagList) : Der.Element := .sequenceOf toElement lists

/-- The lists that a byte string encodes. -/
def listsOfDer? (bytes : Bytes) : Option (List TagList) :=
  (Der.Element.decode? bytes).bind fun e => e.sequenceOf? ofElement?

end TagList

/-! ### Targets -/

/-- The hosts that attributes are meant for.

    Targets ::= SEQUENCE OF Target
    Target  ::= CHOICE {
        targetName   [0] GeneralName,
        targetGroup  [1] GeneralName,
        targetCert   [2] TargetCert }

The extension holds a `SEQUENCE OF Targets`. Groups and certificates are passed over. -/
def Targets.extensionId : Oid := ⟨[0x55, 0x1D, 0x37], rfl⟩

namespace Targets

/-- The host of a target; `none` for a target that is no name or a name of no host, an error
for a name that cannot be read. -/
def hostOfTarget? (e : Der.Element) : Option (Option String) :=
  if e.tag = .contextConstructed 0 then
    (e.explicit?.bind GeneralName.ofElement?).map GeneralName.host?
  else some none

/-- The hosts of one list of targets. -/
def hostsOfElement? (e : Der.Element) : Option (List String) :=
  (e.sequenceOf? hostOfTarget?).map fun hosts => hosts.filterMap id

/-- The hosts of all lists of targets, in order. -/
def ofElement? (e : Der.Element) : Option (List String) :=
  (e.sequenceOf? hostsOfElement?).map List.flatten

/-- The hosts that a byte string encodes. -/
def ofDer? (bytes : Bytes) : Option (List String) :=
  (Der.Element.decode? bytes).bind ofElement?

/-- The target with a given name, written as an identifier; only ASCII names can be. -/
def targetElement? (name : String) : Option Der.Element :=
  (Der.AsciiText.ofString? name).map fun s => (GeneralName.uri s).toElement.explicit 0

/-- The element of one list of targets with the given names. -/
def toElement? (names : List String) : Option Der.Element :=
  (names.mapM targetElement?).map fun targets => .sequence [.sequence targets]

/-- The encoding of one list of targets with the given names. -/
def toDer? (names : List String) : Option Bytes :=
  (toElement? names).bind Der.Element.encode?

end Targets

end GridAuthz
