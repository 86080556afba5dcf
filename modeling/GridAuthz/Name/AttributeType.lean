import GridAuthz.Oid.Registry

/-!
# Names of attribute types

In a name written with slashes an attribute type is given by a short name, by a registered
name or by the dotted text of its identifier.
-/

namespace GridAuthz.AttributeType

/-- The type of a common name. -/
def commonName : Oid := ⟨[0x55, 0x04, 0x03], rfl⟩

/-- The type of an electronic mail address. -/
def emailAddress : Oid := ⟨[0x2A, 0x86, 0x48, 0x86, 0xF7, 0x0D, 0x01, 0x09, 0x01], rfl⟩

/-- The short names. A type with two of them is written with the first. -/
def shortNames : List (String × Oid) := [
  ("C", ⟨[0x55, 0x04, 0x06], rfl⟩),
  ("ST", ⟨[0x55, 0x04, 0x08], rfl⟩),
  ("L", ⟨[0x55, 0x04, 0x07], rfl⟩),
  ("O", ⟨[0x55, 0x04, 0x0A], rfl⟩),
  ("OU", ⟨[0x55, 0x04, 0x0B], rfl⟩),
  ("CN", commonName),
  ("DC", ⟨[0x09, 0x92, 0x26, 0x89, 0x93, 0xF2, 0x2C, 0x64, 0x01, 0x19], rfl⟩),
  ("UID", ⟨[0x09, 0x92, 0x26, 0x89, 0x93, 0xF2, 0x2C, 0x64, 0x01, 0x01], rfl⟩),
  ("SN", ⟨[0x55, 0x04, 0x04], rfl⟩),
  ("GN", ⟨[0x55, 0x04, 0x2A], rfl⟩),
  ("emailAddress", emailAddress),
  ("E", emailAddress)]

/-- The type with a given name: a short name or a registered one, in any case, or a dotted
text. -/
def ofName? (name : String) : Option Oid :=
  ((shortNames.find? fun entry => Text.sameIgnoringCase entry.1 name).map (·.2)).orElse fun _ =>
    (Oid.ofName? name).orElse fun _ => Oid.ofDotted? name.toList

/-- The name of a type: its short name, its registered name or its dotted text. -/
def toName (kind : Oid) : String :=
  match shortNames.find? fun entry => entry.2 = kind with
  | some entry => entry.1
  | none => kind.name?.getD kind.toDotted

end GridAuthz.AttributeType
