import GridAuthz.Certificate
import GridAuthz.Name.SlashForm

/-!
# LSC files

An LSC file describes the chains of certificates that the attribute authority of a virtual
organisation has at one host. Each line is the name of a certificate, leaf first; a line that
starts with a dash ends a chain. Empty lines and lines that start with a hash sign do not
count.

    # the server at voms.example.org
    /C=CH/O=Example/CN=voms.example.org
    /C=CH/O=Example/CN=Certification Authority
    ------ NEXT CHAIN ------
    /C=CH/O=Example/CN=voms.example.org
    /C=CH/O=Example/CN=Certification Authority 2
-/

namespace GridAuthz

/-! ### Descriptions of chains -/

/-- The names of the certificates of a chain, leaf first. -/
structure ChainDescription where
  /-- The names. -/
  names : List NamePattern
  deriving DecidableEq

namespace ChainDescription

/-- Each name matches the subject of the certificate in its place. There may be one name more
than certificates, which then matches the issuer of the last certificate. -/
def describes : List NamePattern → List Certificate → Bool
  | [p], [c] => p.isMatch c.subject
  | [p, q], [c] => p.isMatch c.subject && q.isMatch c.issuer
  | p :: ps, c :: d :: cs => p.isMatch c.subject && describes ps (d :: cs)
  | _, _ => false

/-- The description fits a chain, leaf first. -/
def isMatch (d : ChainDescription) (chain : List Certificate) : Bool :=
  describes d.names chain

end ChainDescription

/-! ### Files -/

/-- Why a text is no LSC file. -/
inductive LscError where
  /-- A line is no name. -/
  | name (error : PatternError)
  /-- There are no names at all. -/
  | noDescription
  deriving DecidableEq

/-- What is said about the text. -/
def LscError.detail : LscError → String
  | name error => error.message
  | noDescription => "no certificate chain description"

/-- The text of the error for a file that is called `file`. -/
def LscError.message (e : LscError) (file : String) : String :=
  "Malformed LSC file " ++ file ++ ": " ++ e.detail

/-- The chains of the attribute authority of an organisation at one host. -/
structure LscFile where
  /-- The virtual organisation. -/
  vo : String
  /-- The host. -/
  host : String
  /-- The file that the description was read from. -/
  filename : Option String
  /-- The chains. -/
  descriptions : List ChainDescription
  deriving DecidableEq

namespace LscFile

/-- What a line means. -/
inductive Line where
  /-- Nothing. -/
  | blank
  /-- The end of a chain. -/
  | separator
  /-- A certificate. -/
  | name (pattern : NamePattern)
  deriving DecidableEq

/-- Tells what a line means by its first character that is not white space. -/
def Line.read (line : List Char) : Except LscError Line :=
  let line := Text.trimChars line
  match line.head? with
  | none => .ok .blank
  | some c =>
    if c = '#' then .ok .blank
    else if c = '-' then .ok .separator
    else match NamePattern.parse (String.ofList line) with
      | .ok pattern => .ok (.name pattern)
      | .error error => .error (.name error)

/-- The name on a line that has one. -/
def Line.name? : Line → Option NamePattern
  | name pattern => some pattern
  | _ => none

/-- The chains that a list of lines describes. -/
def groupLines (lines : List Line) : List ChainDescription :=
  (((lines.splitOn .separator).map fun group => group.filterMap Line.name?).filter
    fun names => !names.isEmpty).map ChainDescription.mk

/-- The chains that a text describes, of which there is at least one. -/
def readDescriptions (text : String) : Except LscError (List ChainDescription) := do
  let descriptions := groupLines (← (Text.linesOf text.toList).mapM Line.read)
  if descriptions.isEmpty then .error .noDescription else .ok descriptions

/-- Reads the text of an LSC file. -/
def read (vo host : String) (filename : Option String) (text : String) :
    Except LscError LscFile := do
  return { vo, host, filename, descriptions := ← readDescriptions text }

/-- One of the descriptions fits a chain, leaf first. -/
def isMatch (f : LscFile) (chain : List Certificate) : Bool :=
  f.descriptions.any (·.isMatch chain)

/-- What an LSC file is about: the organisation and the host. -/
def key (f : LscFile) : String × String := (f.vo, f.host)

/-- Two LSC files are interchangeable when they are about the same organisation and host,
whatever they say. -/
def sameKey (f g : LscFile) : Bool := f.key == g.key

end LscFile

/-! ### Indexes -/

/-- LSC files of which no two are about the same organisation and host. -/
structure LscIndex where
  /-- The files, the one that came last first. -/
  files : List LscFile
  /-- No two files are about the same. -/
  distinct : files.Pairwise fun f g => f.key ≠ g.key
  deriving DecidableEq

namespace LscIndex

/-- The index without files. -/
def empty : LscIndex := ⟨[], .nil⟩

/-- Adds a file; one about the same organisation and host is replaced. -/
def insert (index : LscIndex) (f : LscFile) : LscIndex where
  files := f :: index.files.filter fun g => f.key ≠ g.key
  distinct := by
    refine List.Pairwise.cons (fun g hg => ?_) (index.distinct.filter _)
    simpa using (List.mem_filter.1 hg).2

/-- The file about an organisation and host. -/
def find? (index : LscIndex) (vo host : String) : Option LscFile :=
  index.files.find? (·.key = (vo, host))

/-- How many files there are. -/
def count (index : LscIndex) : Nat := index.files.length

/-- The organisations that there are files about, in order. -/
def organisations (index : LscIndex) : List String :=
  ((index.files.map (·.vo)).mergeSort fun a b => decide (a ≤ b)).eraseDups

/-- The files about an organisation, in the order of their hosts. -/
def filesOf (index : LscIndex) (vo : String) : List LscFile :=
  (index.files.filter (·.vo = vo)).mergeSort fun f g => decide (f.host ≤ g.host)

/-- All files, by organisation. -/
def toList (index : LscIndex) : List (String × List LscFile) :=
  index.organisations.map fun vo => (vo, index.filesOf vo)

end LscIndex

end GridAuthz
