import GridAuthz.Text.LetterCase

/-!
# Kinds of proxy certificates

A proxy certificate is issued by the holder of another certificate, who delegates rights to
it. Three kinds are in use. The oldest are recognised by their name alone; those of the draft
and of the standard carry an extension, each with an encoding of its own.
-/

namespace GridAuthz

/-- A kind of proxy certificate. -/
inductive ProxyKind where
  /-- Recognised by its name. -/
  | legacy
  /-- With the extension of the draft. -/
  | draft
  /-- With the extension of the standard, RFC 3820. -/
  | rfc3820
  deriving DecidableEq

namespace ProxyKind

/-- The name of a kind. -/
def toText : ProxyKind → String
  | legacy => "legacy"
  | draft => "draft"
  | rfc3820 => "rfc3820"

/-- The names under which the kinds are known, in lower case. -/
def names : List (String × ProxyKind) := [
  ("legacy", legacy), ("gt2", legacy),
  ("draft", draft), ("gt3", draft), ("pre_rfc", draft), ("pre-rfc", draft),
  ("rfc3820", rfc3820), ("rfc", rfc3820)]

/-- The kind with a given name, without regard to ASCII case. -/
def ofText? (text : String) : Option ProxyKind :=
  names.lookup (Text.lower text)

/-- Why a text names no kind: it is not one of the names. -/
structure UnknownKind where
  /-- The text. -/
  text : String
  deriving DecidableEq

/-- The text of the error. -/
def UnknownKind.message (e : UnknownKind) : String :=
  "Unsupported proxy type \"" ++ e.text ++ "\""

/-- The kind with a given name, or the error that there is none. -/
def parse (text : String) : Except UnknownKind ProxyKind :=
  match ofText? text with
  | some kind => .ok kind
  | none => .error ⟨text⟩

end ProxyKind

end GridAuthz
