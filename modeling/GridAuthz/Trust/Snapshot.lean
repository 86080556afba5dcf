import GridAuthz.Certificate.Pem
import GridAuthz.Lsc

/-!
# Trust snapshots

What is known at one time about the attribute authorities that are trusted: their certificates,
and LSC files for the certificates that they send along.

It is put together from files. One that cannot be used is passed over as a whole and listed as
skipped.
-/

namespace GridAuthz

/-- What is known about the trusted attribute authorities. -/
structure TrustSnapshot where
  /-- The certificates, no two with the same encoding, in the order of their first
  occurrence. -/
  certificates : List Certificate
  /-- The LSC files. -/
  lsc : LscIndex
  /-- The paths of what could not be used. -/
  skipped : List String
  deriving DecidableEq

namespace TrustSnapshot

/-- The snapshot that knows nothing. -/
def empty : TrustSnapshot := ⟨[], .empty, []⟩

/-- Nothing is known. -/
def isEmpty (s : TrustSnapshot) : Bool := s.certificates.isEmpty && s.lsc.files.isEmpty

/-- The certificates with a given subject. -/
def certificatesOf (s : TrustSnapshot) (subject : Name) : List Certificate :=
  s.certificates.filter fun c => c.subject.agrees subject

/-! ### Items -/

/-- Something in the trust directories that concerns a snapshot. -/
inductive Item where
  /-- A directory that does not exist, or a directory or file that cannot be read. -/
  | unusable (path : String)
  /-- A file of certificates. -/
  | certificates (path : String) (contents : Bytes)
  /-- An LSC file for an organisation and host. -/
  | lsc (path vo host : String) (contents : Bytes)
  deriving DecidableEq

/-! ### From items to snapshots -/

/-- The certificates of a file, if it is PEM text with at least one. -/
def certificatesIn? (contents : Bytes) : Option (List Certificate) :=
  match (Bytes.toText? contents).map Certificate.readPem with
  | some (.ok (c :: cs)) => some (c :: cs)
  | _ => none

/-- Adds a certificate unless there is one with the same encoding. -/
def addCertificate (certificates : List Certificate) (c : Certificate) : List Certificate :=
  if certificates.any fun d => d.toDer == c.toDer then certificates else certificates ++ [c]

/-- The LSC file of some contents. -/
def lscIn? (path vo host : String) (contents : Bytes) : Option LscFile :=
  (Bytes.toText? contents).bind fun text => (LscFile.read vo host (some path) text).toOption

/-- Lists a path as skipped. -/
def skip (s : TrustSnapshot) (path : String) : TrustSnapshot :=
  { s with skipped := s.skipped ++ [path] }

/-- Adds what an item holds. -/
def add (s : TrustSnapshot) : Item → TrustSnapshot
  | .unusable path => s.skip path
  | .certificates path contents =>
    match certificatesIn? contents with
    | some cs => { s with certificates := cs.foldl addCertificate s.certificates }
    | none => s.skip path
  | .lsc path vo host contents =>
    match lscIn? path vo host contents with
    | some f => { s with lsc := s.lsc.insert f }
    | none => s.skip path

/-- What the items of a list hold. -/
def ofItems (items : List Item) : TrustSnapshot := items.foldl add empty

end TrustSnapshot

end GridAuthz
