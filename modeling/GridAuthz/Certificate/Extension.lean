import GridAuthz.Der.Primitive
import GridAuthz.Oid

/-!
# Extensions

An extension is a value that an object identifier gives the meaning of. It is critical when a
reader who does not know it must refuse what it is attached to.
-/

namespace GridAuthz

/-- An extension of a certificate. -/
structure Extension where
  /-- What the extension means. -/
  id : Oid
  /-- Whether an unknown extension is a reason to refuse. -/
  critical : Bool
  /-- The encoded value. -/
  value : Bytes
  deriving DecidableEq

namespace Extension

/-- The element of an extension; that it is not critical is the default and is not written. -/
def toElement (x : Extension) : Der.Element :=
  .sequence (x.id.toElement ::
    ((if x.critical then [.ofBool true] else []) ++ [.ofOctets x.value]))

/-- The extension of an element. -/
def ofElement? (e : Der.Element) : Option Extension := do
  match ← e.sequence? with
  | [] => none
  | id :: rest =>
    let (critical, rest) ← Der.takeTagged? .boolean Der.Element.bool? rest
    match rest with
    | [value] => return ⟨← Oid.ofElement? id, critical.getD false, ← value.octets?⟩
    | _ => none

/-- The extensions of a list that have a meaning. -/
def allWith (id : Oid) (extensions : List Extension) : List Extension :=
  extensions.filter (·.id = id)

/-- The first extension of a list that has a meaning. -/
def find? (id : Oid) (extensions : List Extension) : Option Extension :=
  List.find? (·.id = id) extensions

end Extension

/-- Whether a certificate may issue others. -/
structure BasicConstraints where
  /-- The subject is a certificate authority. -/
  ca : Bool
  /-- How many authorities may follow in a chain. -/
  pathLength : Option Nat
  deriving DecidableEq

namespace BasicConstraints

/-- What the extension with these constraints means. -/
def extensionId : Oid := ⟨[0x55, 0x1D, 0x13], rfl⟩

/-- The constraints of an element. -/
def ofElement? (e : Der.Element) : Option BasicConstraints := do
  let fields ← e.sequence?
  let (ca, fields) ← Der.takeTagged? .boolean Der.Element.bool? fields
  let (pathLength, fields) ← Der.takeTagged? .integer (Der.Element.natBelow? 256) fields
  if fields.isEmpty then return ⟨ca.getD false, pathLength⟩ else none

/-- The constraints that a byte string encodes. -/
def ofDer? (bytes : Bytes) : Option BasicConstraints :=
  (Der.Element.decode? bytes).bind ofElement?

end BasicConstraints

end GridAuthz
