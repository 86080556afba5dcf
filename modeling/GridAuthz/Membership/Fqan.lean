import GridAuthz.Text.Cut

/-!
# Fully qualified attribute names

A group of a virtual organisation, and possibly a role in it, is written
`/organisation/group/Role=role`. Servers append components that say nothing: a capability,
and the role `NULL`.
-/

namespace GridAuthz.Fqan

/-- What a capability starts with. -/
def capability : List Char := "/Capability=".toList

/-- The role that says nothing. -/
def nullRole : List Char := "/Role=NULL".toList

/-- A name without all that follows the first capability. -/
def dropCapability (name : List Char) : List Char :=
  ((Text.cutAtText? capability name).map (·.1)).getD name

/-- A name without the role that says nothing at its end. -/
def dropNullRole (name : List Char) : List Char :=
  (Text.dropEnding? nullRole name).getD name

/-- The normal form of a list of characters. -/
def normalizeChars (name : List Char) : List Char := dropNullRole (dropCapability name)

/-- The normal form of a name: without capability and without a last role that says nothing. -/
def normalize (name : String) : String := String.ofList (normalizeChars name.toList)

end GridAuthz.Fqan
