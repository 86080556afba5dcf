import GridAuthz.FileTree
import GridAuthz.Trust.Snapshot

/-!
# Trust directories

A trust snapshot is loaded from a list of directories.

    vomsdir/
        authority.pem                   certificates
        vo.example/
            voms.example.org.lsc        an LSC file for the organisation vo.example
            voms.example.net.pem        more certificates

What cannot be read below a trust directory is skipped, but a trust directory that cannot be
listed makes loading fail. One that does not exist does so only when it is asked to.
-/

namespace GridAuthz

/-- Why trust directories cannot be loaded. -/
inductive TrustError where
  /-- There are no directories. -/
  | noDirectories
  /-- A directory does not exist. -/
  | directoryNotFound (path : String)
  /-- A directory cannot be listed. -/
  | unreadable (error : FileError)
  /-- There is nothing in the directories that can be used. -/
  | nothingTrusted
  /-- The time between loads of a refreshing store is zero. -/
  | zeroPeriod
  deriving DecidableEq

/-- The text of the error. -/
def TrustError.message : TrustError → String
  | noDirectories => "No trust directories were configured"
  | directoryNotFound path =>
    "Trust directory " ++ path ++ " does not exist or is not a directory"
  | unreadable error => "I/O error: " ++ error.message
  | nothingTrusted => "The trust directories hold no AA certificates and no LSC files"
  | zeroPeriod => "The trust store update frequency must be greater than zero"

/-- What to do with a trust directory that does not exist. -/
inductive MissingDirectory where
  /-- Loading fails. -/
  | fail
  /-- The directory is skipped. -/
  | skip
  deriving DecidableEq

namespace TrustSnapshot

/-- The extension of files of certificates. -/
def certificateExtension : String := "pem"

/-- The extension of LSC files. -/
def lscExtension : String := "lsc"

/-- What there is to a file when it can be read. -/
def fileItem (tree : FileTree) (path : String) (item : Bytes → Item) : Item :=
  match tree.readBytes path with
  | .ok contents => item contents
  | .error _ => .unusable path

/-- What a file in the directory of an organisation is. -/
def organisationItem? (tree : FileTree) (directory vo : String) (name : FileName) :
    Option Item :=
  let path := FileTree.join directory name.text
  if tree.isFile path then
    if FileTree.extension? name.text = some lscExtension then
      some (fileItem tree path (.lsc path vo (FileTree.stem name.text)))
    else if FileTree.extension? name.text = some certificateExtension then
      some (fileItem tree path (.certificates path))
    else none
  else none

/-- The items of the directory of an organisation. -/
def organisationItems (tree : FileTree) (directory vo : String) : List Item :=
  match tree.visibleNames directory with
  | .ok names => names.filterMap (organisationItem? tree directory vo)
  | .error _ => [.unusable directory]

/-- The items of an entry of a trust directory: a file of certificates, or the directory of an
organisation. -/
def entryItems (tree : FileTree) (directory : String) (name : FileName) : List Item :=
  let path := FileTree.join directory name.text
  if tree.isDirectory path then organisationItems tree path name.text
  else if tree.isFile path ∧ FileTree.extension? name.text = some certificateExtension then
    [fileItem tree path (.certificates path)]
  else []

/-- The items of a trust directory. -/
def directoryItems (missing : MissingDirectory) (tree : FileTree) (directory : String) :
    Except TrustError (List Item) :=
  if tree.isDirectory directory then
    match tree.visibleNames directory with
    | .ok names => .ok (names.flatMap (entryItems tree directory))
    | .error error => .error (.unreadable error)
  else
    match missing with
    | .fail => .error (.directoryNotFound directory)
    | .skip => .ok [.unusable directory]

/-- What a list of trust directories holds, one after the other, if that is anything. -/
def load (missing : MissingDirectory) (tree : FileTree) (directories : List String) :
    Except TrustError TrustSnapshot :=
  if directories.isEmpty then .error .noDirectories
  else do
    let items ← directories.mapM (directoryItems missing tree)
    let snapshot := ofItems items.flatten
    if snapshot.isEmpty then .error .nothingTrusted else .ok snapshot

end TrustSnapshot

end GridAuthz
