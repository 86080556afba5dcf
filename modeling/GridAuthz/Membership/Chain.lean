import GridAuthz.Membership.Reading

/-!
# Attribute certificates in chains

A proxy carries attribute certificates in an extension. Of the proxies of a chain the one
nearest to the leaf counts.
-/

namespace GridAuthz.Membership

/-- The extension of a proxy that holds attribute certificates. -/
def extensionId : Oid := ⟨[0x2B, 0x06, 0x01, 0x04, 0x01, 0xBE, 0x45, 0x64, 0x64, 0x05], rfl⟩

/-- The encoded attribute certificates of a chain: those of the first certificate from the leaf
that has the extension. -/
def extension? (chain : List Certificate) : Option Bytes :=
  chain.findSome? fun c => (Extension.find? extensionId c.extensions).map (·.value)

/-- The extension is not a sequence of elements. -/
inductive ExtensionError where
  /-- The extension cannot be decoded. -/
  | malformed
  deriving DecidableEq

/-- The text of the error. -/
def ExtensionError.message : ExtensionError → String
  | malformed => "The VOMS extension does not hold a sequence of attribute certificates"

/-- What each attribute certificate of a chain says, or what is wrong with it. A chain without
the extension has no attribute certificates. -/
def readChain (chain : List Certificate) :
    Except ExtensionError (List (Except Fault Membership)) :=
  match extension? chain with
  | none => .ok []
  | some bytes =>
    match (Der.Element.decode? bytes).bind Der.Element.sequence? with
    | some elements => .ok (elements.map ofElement)
    | none => .error .malformed

/-- What the well formed attribute certificates of a chain say. -/
def ofChain (chain : List Certificate) : Except ExtensionError (List Membership) :=
  (readChain chain).map fun read => read.filterMap Except.toOption

end GridAuthz.Membership
