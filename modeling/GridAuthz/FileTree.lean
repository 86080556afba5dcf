import GridAuthz.Bytes

/-!
# File trees

Files and directories below one root. A path is the list of names that lead from the root to
a file; in text they are separated by slashes. A text that begins with a slash leads from the root,
any other from the working directory, and all readers go where it leads in the same way
(`FileTree.find`). What is there may still be unreadable.
-/

namespace GridAuthz

/-- A text that can be the name of a file. -/
def IsFileName (text : String) : Prop :=
  text ≠ "" ∧ text ≠ "." ∧ text ≠ ".." ∧ '/' ∉ text.toList

instance : DecidablePred IsFileName := fun _ => inferInstanceAs (Decidable (_ ∧ _))

/-- The name of a file or directory. -/
structure FileName where
  /-- The name as text. -/
  text : String
  /-- It is neither empty nor a way to another directory. -/
  proper : IsFileName text
  deriving DecidableEq

/-- What is found at a path. -/
inductive FileNode where
  /-- A file with its contents. -/
  | file (contents : Bytes)
  /-- A directory. -/
  | directory
  deriving DecidableEq

/-- Why a directory cannot be listed, or a file cannot be read as text. -/
inductive FileError where
  /-- There is nothing at the path. -/
  | notFound
  /-- There is a file where there should be a directory. -/
  | notDirectory
  /-- There is a directory where there should be a file. -/
  | isDirectory
  /-- The system refuses to read the file or directory. -/
  | unreadable (reason : String)
  /-- The contents are not UTF-8. -/
  | notText
  deriving DecidableEq

/-- What the system says of the error. -/
def FileError.message : FileError → String
  | notFound => "No such file or directory (os error 2)"
  | notDirectory => "Not a directory (os error 20)"
  | isDirectory => "Is a directory (os error 21)"
  | unreadable reason => reason
  | notText => "stream did not contain valid UTF-8"

/-- Files and directories. The root is always there and need not be listed. -/
structure FileTree where
  /-- The paths with what is found there. -/
  nodes : List (List FileName × FileNode)
  /-- The paths that the system refuses to read, and what it says of each. -/
  faults : List (List FileName × String)
  /-- The directory that paths lead from unless they lead from the root. -/
  workingDirectory : List FileName
  /-- No path occurs twice. -/
  distinct : (nodes.map Prod.fst).Nodup
  deriving DecidableEq

namespace FileTree

/-! ### Paths -/

/-- Follows one component of the text of a path. -/
def step (path : List FileName) (name : String) : List FileName :=
  if name = ".." then path.dropLast
  else if proper : IsFileName name then path ++ [⟨name, proper⟩]
  else path

/-- What stands between the slashes of the text of a path. -/
def names (path : String) : List String := (path.toList.splitOn '/').map String.ofList

/-- A text that leads from the root. -/
def isAbsolute (path : String) : Bool := path.toList.head? = some '/'

/-- Where a text leads from. -/
def base (tree : FileTree) (path : String) : List FileName :=
  if isAbsolute path then [] else tree.workingDirectory

/-- The path that a text gives. -/
def components (tree : FileTree) (path : String) : List FileName :=
  (names path).foldl step (tree.base path)

/-- The text of a path without the names at its two ends that lead nowhere. -/
def trimmed (path : String) : String :=
  let rest := (names path).dropWhile fun name => name = "" || name = "."
  "/".intercalate (rest.reverse.dropWhile fun name => name = "" || name = ".").reverse

/-- The text of the path of a name in a directory. -/
def join (directory name : String) : String :=
  if directory = "" ∨ directory.toList.getLast? = some '/' then directory ++ name
  else directory ++ "/" ++ name

/-- What stands after the last dot of a file name, unless the dot is its first character. -/
def extension? (name : String) : Option String :=
  match (name.toList.reverse.span (· ≠ '.')) with
  | (after, '.' :: _ :: _) => some (String.ofList after.reverse)
  | _ => none

/-- A file name without its extension. -/
def stem (name : String) : String :=
  match extension? name with
  | some ext => String.ofList (name.toList.take (name.toList.length - ext.toList.length - 1))
  | none => name

/-- A name that is not listed. -/
def isHidden (name : String) : Bool := name.toList.head? = some '.'

/-! ### Reading -/

/-- What is found at a path. -/
def node? (tree : FileTree) (path : List FileName) : Option FileNode :=
  if path.isEmpty then some .directory else tree.nodes.lookup path

/-- What the system says when it refuses to read what is at a path. -/
def fault? (tree : FileTree) (path : List FileName) : Option String := tree.faults.lookup path

/-- Follows names from a path, through directories only. -/
def follow (tree : FileTree) (path : List FileName) :
    (names : List String) → Except FileError (List FileName)
  | [] => .ok path
  | name :: names =>
    match tree.node? path with
    | some .directory => tree.follow (step path name) names
    | some (.file _) => .error .notDirectory
    | none => .error .notFound

/-- What is found at a path, or that there is nothing. -/
def nodeAt (tree : FileTree) (path : List FileName) : Except FileError FileNode :=
  match tree.node? path with
  | some node => .ok node
  | none => .error .notFound

/-- What a text leads to. An empty text leads nowhere. -/
def find (tree : FileTree) (path : String) : Except FileError FileNode :=
  if path = "" then .error .notFound
  else do tree.nodeAt (← tree.follow (tree.base path) (names path))

/-- There is a directory at a path. -/
def isDirectory (tree : FileTree) (path : String) : Bool :=
  match tree.find path with
  | .ok .directory => true
  | _ => false

/-- There is a file at a path. -/
def isFile (tree : FileTree) (path : String) : Bool :=
  match tree.find path with
  | .ok (.file _) => true
  | _ => false

/-- The contents of the file at a path. -/
def readBytes (tree : FileTree) (path : String) : Except FileError Bytes := do
  match ← tree.find path with
  | .directory => .error .isDirectory
  | .file contents =>
    match tree.fault? (tree.components path) with
    | some reason => .error (.unreadable reason)
    | none => .ok contents

/-- The text of the file at a path. -/
def readText (tree : FileTree) (path : String) : Except FileError String := do
  match Bytes.toText? (← tree.readBytes path) with
  | some text => .ok text
  | none => .error .notText

/-- The name of what is at a path, if that is in a directory. -/
def nameIn? (directory path : List FileName) : Option FileName :=
  if path.dropLast = directory then path.getLast? else none

/-- The names in the directory at a path that are not hidden, in order. -/
def namesAt (tree : FileTree) (path : List FileName) : List FileName :=
  (((tree.nodes.map Prod.fst).filterMap (nameIn? path)).filter fun name =>
    !isHidden name.text).mergeSort fun a b => decide (a.text ≤ b.text)

/-- The names in a directory that are not hidden, in order. -/
def visibleNames (tree : FileTree) (directory : String) :
    Except FileError (List FileName) := do
  match ← tree.find directory with
  | .file _ => .error .notDirectory
  | .directory =>
    match tree.fault? (tree.components directory) with
    | some reason => .error (.unreadable reason)
    | none => .ok (tree.namesAt (tree.components directory))

/-! ### Writing -/

/-- The tree without files. -/
def empty : FileTree := ⟨[], [], [], .nil⟩

/-- The tree as seen from another working directory. -/
def workIn (tree : FileTree) (path : String) : FileTree :=
  { tree with workingDirectory := tree.components path }

/-- Puts something at a path, in place of what was there. -/
def put (tree : FileTree) (path : List FileName) (node : FileNode) : FileTree where
  nodes := (path, node) :: tree.nodes.filter fun entry => entry.1 ≠ path
  faults := tree.faults
  workingDirectory := tree.workingDirectory
  distinct := by
    rw [List.map_cons, List.nodup_cons]
    refine ⟨?_, tree.distinct.sublist (List.filter_sublist.map _)⟩
    simp

/-- Makes a directory at a path that has nothing. -/
def ensureDirectory (tree : FileTree) (path : List FileName) : FileTree :=
  if (tree.node? path).isSome then tree else tree.put path .directory

/-- Makes the directories that lead to a path, and the one at the path. -/
def makeDirectories (tree : FileTree) (path : List FileName) : FileTree :=
  (List.range path.length).foldl (fun tree n => tree.ensureDirectory (path.take (n + 1))) tree

/-- Makes a directory and those that lead to it. -/
def makeDirectory (tree : FileTree) (path : String) : FileTree :=
  tree.makeDirectories (tree.components path)

/-- Writes a file, and makes the directories that lead to it. -/
def write (tree : FileTree) (path : String) (contents : Bytes) : FileTree :=
  let path := tree.components path
  (tree.makeDirectories path.dropLast).put path (.file contents)

/-- Removes what is at a path, with all that is below it. -/
def remove (tree : FileTree) (path : String) : FileTree :=
  let path := tree.components path
  { tree with
    nodes := tree.nodes.filter fun entry => !path.isPrefixOf entry.1
    faults := tree.faults.filter fun entry => !path.isPrefixOf entry.1
    distinct := tree.distinct.sublist (List.filter_sublist.map _) }

end FileTree

end GridAuthz
