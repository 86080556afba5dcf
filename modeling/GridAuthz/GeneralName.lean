import GridAuthz.Der.Primitive
import GridAuthz.Name

/-!
# General names

A general name is a name of one of several kinds. The kind is the number of its context
specific tag; a directory name is tagged explicitly, the other kinds implicitly.
-/

namespace GridAuthz

/-! ### Directory strings -/

/-- An element is a PrintableString, a TeletexString or a UTF8String that holds what its type
allows. -/
def isDirectoryString (e : Der.Element) : Bool :=
  if e.tag = .printableString then e.content.all Der.isPrintable
  else if e.tag = .teletexString then e.content.all (· < 0x80)
  else e.tag = .utf8String && (Bytes.toText? e.content).isSome

/-- A text in one of three types. -/
structure DirectoryString where
  /-- The element. -/
  element : Der.Element
  /-- The element is of one of the types. -/
  isString : isDirectoryString element = true
  deriving DecidableEq

/-- The directory string of an element. -/
def DirectoryString.ofElement? (e : Der.Element) : Option DirectoryString :=
  if h : isDirectoryString e = true then some ⟨e, h⟩ else none

/-! ### Names -/

/-- A name of some kind. -/
inductive GeneralName where
  /-- A name of a type that has an identifier. -/
  | other (type : Oid) (value : Der.Element)
  /-- An electronic mail address. -/
  | email (address : Der.AsciiText)
  /-- A host name. -/
  | dns (host : Der.AsciiText)
  /-- A distinguished name. -/
  | directory (name : Name)
  /-- A name of a party, with who has given it. -/
  | ediParty (assigner : Option DirectoryString) (party : DirectoryString)
  /-- A uniform resource identifier. -/
  | uri (identifier : Der.AsciiText)
  /-- The bytes of an internet address. -/
  | ip (address : Bytes)
  /-- A registered identifier. -/
  | registered (id : Oid)
  deriving DecidableEq

namespace GeneralName

/-- The element of a name. -/
def toElement : GeneralName → Der.Element
  | other type value =>
    (Der.Element.sequence [type.toElement, value.explicit 0]).retag (.contextConstructed 0)
  | email address => address.toElement.retag (.contextPrimitive 1)
  | dns host => host.toElement.retag (.contextPrimitive 2)
  | directory name => name.toElement.explicit 4
  | ediParty assigner party =>
    (Der.Element.sequence ((assigner.map fun s => s.element.explicit 0).toList ++
      [party.element.explicit 1])).retag (.contextConstructed 5)
  | uri identifier => identifier.toElement.retag (.contextPrimitive 6)
  | ip address => (Der.Element.ofOctets address).retag (.contextPrimitive 7)
  | registered id => id.toElement.retag (.contextPrimitive 8)

/-- Reads the fields of a name with an identifier. -/
def otherOfElement? (e : Der.Element) : Option GeneralName := do
  match ← e.sequence? with
  | [] => none
  | type :: rest =>
    match ← Der.takeExplicit? 0 some rest with
    | (some value, []) => return other (← Oid.ofElement? type) value
    | _ => none

/-- Reads the fields of a name of a party. -/
def ediPartyOfElement? (e : Der.Element) : Option GeneralName := do
  let (assigner, rest) ← Der.takeExplicit? 0 DirectoryString.ofElement? (← e.sequence?)
  match ← Der.takeExplicit? 1 DirectoryString.ofElement? rest with
  | (some party, []) => return ediParty assigner party
  | _ => none

/-- The name of an element. -/
def ofElement? (e : Der.Element) : Option GeneralName :=
  if e.tag = .contextConstructed 0 then otherOfElement? (e.retag .sequence)
  else if e.tag = .contextPrimitive 1 then
    (Der.AsciiText.ofElement? (e.retag .ia5String)).map email
  else if e.tag = .contextPrimitive 2 then
    (Der.AsciiText.ofElement? (e.retag .ia5String)).map dns
  else if e.tag = .contextConstructed 4 then
    (e.explicit?.bind Name.ofElement?).map directory
  else if e.tag = .contextConstructed 5 then ediPartyOfElement? (e.retag .sequence)
  else if e.tag = .contextPrimitive 6 then
    (Der.AsciiText.ofElement? (e.retag .ia5String)).map uri
  else if e.tag = .contextPrimitive 7 then some (ip e.content)
  else if e.tag = .contextPrimitive 8 then
    (Oid.ofElement? (e.retag .objectIdentifier)).map registered
  else none

/-- The distinguished name, for a name that is one. -/
def directory? : GeneralName → Option Name
  | directory name => some name
  | _ => none

/-- The uniform resource identifier, for a name that is one. -/
def uri? : GeneralName → Option String
  | uri identifier => some identifier.text
  | _ => none

/-- The host that a name of a target gives: a host name or an identifier. -/
def host? : GeneralName → Option String
  | dns host => some host.text
  | uri identifier => some identifier.text
  | _ => none

/-- The element of a list of names. -/
def listElement (names : List GeneralName) : Der.Element := .sequenceOf toElement names

/-- The list of names of an element. -/
def list? (e : Der.Element) : Option (List GeneralName) := e.sequenceOf? ofElement?

/-- The first distinguished name of a list. -/
def firstDirectory? (names : List GeneralName) : Option Name := names.findSome? directory?

end GeneralName

end GridAuthz
