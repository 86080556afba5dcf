import GridAuthz.Name
import GridAuthz.Name.AttributeType
import GridAuthz.Text.Cut

/-!
# The slash form of names

Grid tools write a name as `/C=CH/O=Example/CN=voms.example.org`: a slash before each relative
name, a plus sign between the attributes of one.

A pattern is a name in this form, read to be matched against encoded names
(`NamePattern.parse`). A slash inside a value stays part of the value unless an attribute type
and an equals sign follow it.
-/

namespace GridAuthz

/-! ### Writing -/

namespace NameAttribute

/-- The value as text: a directory string as it is, any other value as a hash sign and the
hexadecimal digits of its content. -/
def valueText (a : NameAttribute) : String :=
  a.text?.getD ("#" ++ a.value.content.hex)

/-- The attribute as text. -/
def toText (a : NameAttribute) : String :=
  AttributeType.toName a.kind ++ "=" ++ a.valueText

end NameAttribute

/-- A relative name as text. An empty one has no text at all. -/
def RelativeName.toText (p : RelativeName) : String :=
  if p.members.isEmpty then ""
  else "/" ++ "+".intercalate (p.members.map NameAttribute.toText)

/-- The slash form of a name. -/
def Name.toText (n : Name) : String := String.join (n.parts.map RelativeName.toText)

/-! ### Reading -/

/-- Why a text is not a pattern. -/
inductive PatternError where
  /-- The text does not start with a slash, or the first slash is not followed by an
  attribute. -/
  | malformed (source : String)
  /-- What stands where an attribute type belongs is no known type. -/
  | unknownAttribute (source key : String)
  deriving DecidableEq

namespace PatternError

/-- What is said about the text. -/
def detail : PatternError → String
  | malformed source => source
  | unknownAttribute source key => source ++ ": unknown attribute " ++ key

/-- The text of the error. -/
def message (e : PatternError) : String :=
  "Unable to parse the distinguished name \"" ++ e.detail ++ "\""

end PatternError

/-- A name in slash form, with the attributes it lists. -/
structure NamePattern where
  /-- The text, without white space at its ends. -/
  source : String
  /-- The types of the attributes with the prepared forms of their values, in order. -/
  attributes : List (Oid × String)
  deriving DecidableEq

namespace NamePattern

/-- Text that is written like the name of an attribute type. -/
def looksLikeType (key : List Char) : Bool :=
  !key.isEmpty && key.all fun c => c.isAlphanum || c = '-' || c = '.'

/-- What a piece between two slashes is. -/
inductive Piece where
  /-- An attribute with its value. -/
  | attribute (kind : Oid) (value : List Char)
  /-- A continuation of the value before it. -/
  | continuation
  /-- An attribute of no known type. -/
  | unknown (key : List Char)

/-- Tells what a piece is by the text before its first equals sign. -/
def Piece.ofChars (piece : List Char) : Piece :=
  match Text.cutAt? '=' piece with
  | none => .continuation
  | some (key, value) =>
    let typeName := Text.trimChars key
    match AttributeType.ofName? (String.ofList typeName) with
    | some kind => .attribute kind value
    | none => if looksLikeType typeName then .unknown key else .continuation

/-- Reads the pieces between slashes; `groups` are the attributes found so far, the last one
first. -/
def readPieces (source : String) (groups : List (Oid × List Char)) :
    List (List Char) → Except PatternError (List (Oid × List Char))
  | [] => .ok groups.reverse
  | piece :: pieces =>
    match Piece.ofChars piece, groups with
    | .unknown key, _ => .error (.unknownAttribute source (String.ofList key))
    | .attribute kind value, _ => readPieces source ((kind, value) :: groups) pieces
    | .continuation, (kind, value) :: groups =>
      readPieces source ((kind, value ++ '/' :: piece) :: groups) pieces
    | .continuation, [] => .error (.malformed source)

/-- The pattern that a text writes. White space around it does not count. -/
def parse (text : String) : Except PatternError NamePattern :=
  let source := Text.trim text
  match source.toList with
  | '/' :: body => do
    let groups ← readPieces source [] (body.splitOn '/')
    return ⟨source, groups.map fun (kind, value) => (kind, Text.prepare (String.ofList value))⟩
  | _ => .error (.malformed source)

/-- An attribute of a name is as a pattern lists it. -/
def attributeMatches (listed : Oid × String) (a : NameAttribute) : Bool :=
  a.kind == listed.1 && a.text?.any fun text => Text.prepare text == listed.2

/-- The lists have the same length and match place by place. -/
def allMatch : List (Oid × String) → List NameAttribute → Bool
  | [], [] => true
  | listed :: rest, a :: as => attributeMatches listed a && allMatch rest as
  | _, _ => false

/-- A name matches when it holds the listed attributes in order, whatever relative names they
belong to. -/
def isMatch (p : NamePattern) (n : Name) : Bool := allMatch p.attributes n.attributes

end NamePattern

end GridAuthz
