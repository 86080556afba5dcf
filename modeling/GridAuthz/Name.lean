import GridAuthz.Der.Primitive
import GridAuthz.Der.SetOf
import GridAuthz.Oid
import GridAuthz.Text.Preparation

/-!
# Distinguished names

A name is a list of relative names, each a set of attributes; an attribute has a type and a
value. Values are kept as they are encoded, since any type of value is allowed.

Two names are compared by the rules of certificate path validation (`Name.agrees`): attribute
by attribute, with values compared in their prepared form. Only values that are directory
strings can agree, so the relation is not reflexive on all names.
-/

namespace GridAuthz

/-- A type of attribute with a value. -/
structure NameAttribute where
  /-- The type. -/
  kind : Oid
  /-- The value. -/
  value : Der.Element
  deriving DecidableEq

namespace NameAttribute

/-- The element of an attribute. -/
def toElement (a : NameAttribute) : Der.Element := .sequence [a.kind.toElement, a.value]

/-- The attribute of an element. -/
def ofElement? (e : Der.Element) : Option NameAttribute := do
  match ← e.sequence? with
  | [kind, value] => return ⟨← Oid.ofElement? kind, value⟩
  | _ => none

/-- The text of the value, if it is a directory string. -/
def text? (a : NameAttribute) : Option String := a.value.directoryText?

/-- Two values match when both are directory strings with the same prepared form. -/
def valuesMatch (v w : Der.Element) : Bool :=
  match v.directoryText?, w.directoryText? with
  | some s, some t => Text.prepare s == Text.prepare t
  | _, _ => false

/-- Two attributes agree when they have the same type and their values match. -/
def agrees (a b : NameAttribute) : Bool := a.kind == b.kind && valuesMatch a.value b.value

end NameAttribute

/-- A relative name: a set of attributes. -/
abbrev RelativeName := Der.SetOf NameAttribute fun a => a.toElement.encode

/-- A distinguished name. -/
structure Name where
  /-- The relative names, the most significant first. -/
  parts : List RelativeName
  deriving DecidableEq

namespace Name

/-- The element of a name. -/
def toElement (n : Name) : Der.Element := .sequenceOf Der.SetOf.toElement n.parts

/-- The name of an element. -/
def ofElement? (e : Der.Element) : Option Name :=
  (e.sequenceOf? (Der.SetOf.ofElement? NameAttribute.ofElement?)).map Name.mk

/-- The name that a byte string encodes. -/
def ofDer? (bytes : Bytes) : Option Name := (Der.Element.decode? bytes).bind ofElement?

/-- All attributes in order, whatever relative names they belong to. -/
def attributes (n : Name) : List NameAttribute := n.parts.flatMap (·.members)

/-- Two lists agree when they have the same length and agree place by place. -/
def allAgree {α : Type} (agrees : α → α → Bool) : List α → List α → Bool
  | [], [] => true
  | a :: as, b :: bs => agrees a b && allAgree agrees as bs
  | _, _ => false

/-- Two relative names agree when their attributes do, in the order of their encodings. -/
def partsAgree (p q : RelativeName) : Bool :=
  allAgree NameAttribute.agrees p.members q.members

/-- Two names agree when their relative names do. -/
def agrees (n m : Name) : Bool := allAgree partsAgree n.parts m.parts

/-- A name with one more relative name of one attribute. -/
def extend (n : Name) (a : NameAttribute) : Name := ⟨n.parts ++ [.singleton a]⟩

end Name

end GridAuthz
