/-!
# Letter case

Names of hosts, of kinds of proxies and of attribute types are compared without regard to the
case of ASCII letters; all other characters have to be the same.
-/

namespace GridAuthz.Text

/-- The text with its ASCII letters in lower case. -/
def lower (s : String) : String := String.ofList (s.toList.map Char.toLower)

/-- Equality without regard to the case of ASCII letters. -/
def sameIgnoringCase (a b : String) : Bool := lower a == lower b

end GridAuthz.Text
