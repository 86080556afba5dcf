import GridAuthz.Oid
import GridAuthz.Oid.Registry.Certificates
import GridAuthz.Oid.Registry.Directory
import GridAuthz.Oid.Registry.Schema
import GridAuthz.Text.LetterCase

/-!
# Registered names

The names of object identifiers that directories and certificates use. Names are looked up
without regard to ASCII case; where a name or an identifier occurs twice, the first entry
counts.
-/

namespace GridAuthz.Oid

/-- The names with their identifiers. -/
def registry : List (String × Oid) :=
  (Registry.directory ++ Registry.schema ++ Registry.certificates).filterMap
    fun (name, dotted) => (ofDotted? dotted.toList).map (name, ·)

/-- The identifier with a registered name. -/
def ofName? (name : String) : Option Oid :=
  (registry.find? fun entry => Text.sameIgnoringCase entry.1 name).map (·.2)

/-- The registered name of an identifier. -/
def name? (oid : Oid) : Option String :=
  (registry.find? fun entry => entry.2 = oid).map (·.1)

end GridAuthz.Oid
