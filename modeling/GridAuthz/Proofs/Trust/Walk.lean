import GridAuthz.Proofs.FileEntries
import GridAuthz.Proofs.Steps
import GridAuthz.Trust.Directory

/-!
# The walk through trust directories

A walk through the trust directories comes by the files in them and, at the place of the directory of an
organisation, by the files in this. What is loaded is made of what the walk comes by, if nothing is
unreadable (`TrustSnapshot.load_eq_ok_iff`). A file that is put where nothing was is the only difference
that it makes to the walk (`TrustSnapshot.filter_walk_put`).
-/

namespace GridAuthz

theorem flatMap_filter_eq {α β : Type} (p : α → Bool) (f : α → List β) (as : List α) :
    (as.filter p).flatMap f = as.flatMap fun a => if p a then f a else [] := by
  induction as with
  | nil => rfl
  | cons a as ih => cases ha : p a <;> simp [ha, ih]

namespace TrustSnapshot

/-! ### What there is on the way -/

/-- What a walk through trust directories comes by. -/
inductive Found where
  /-- A trust directory that does not exist. -/
  | missing (directory : String)
  /-- A file, which is in the directory of an organisation or in a trust directory itself. -/
  | file (path : String) (organisation : Option String) (name : FileName) (contents : Bytes)
  deriving DecidableEq

/-- The name of a file is not hidden. -/
def Found.IsVisible : Found → Prop
  | missing _ => True
  | file _ _ name _ => FileTree.isHidden name.text = false

/-- It is the file at a path. -/
def Found.IsAt (tree : FileTree) (path : List FileName) : Found → Prop
  | missing _ => False
  | file text _ _ _ => tree.components text = path

instance (tree : FileTree) (path : List FileName) : DecidablePred (Found.IsAt tree path)
  | .missing _ => inferInstanceAs (Decidable False)
  | .file text _ _ _ => inferInstanceAs (Decidable (tree.components text = path))

/-- What a name in a directory leads to, if that is a file. -/
def fileFound (tree : FileTree) (organisation : Option String) (directory : String)
    (name : FileName) : List Found :=
  let path := FileTree.join directory name.text
  match tree.find path with
  | .ok (.file contents) => [.file path organisation name contents]
  | _ => []

/-- What a name in a trust directory leads to: a file, or the files in the directory of an
organisation. -/
def entryFound (tree : FileTree) (directory : String) (name : FileName) : List Found :=
  let path := FileTree.join directory name.text
  match tree.find path with
  | .ok .directory => (tree.entries path).flatMap (fileFound tree (some name.text) path)
  | _ => fileFound tree none directory name

/-- What there is in a trust directory, in the order of its entries. -/
def directoryFound (tree : FileTree) (directory : String) : List Found :=
  if tree.isDirectory directory then (tree.entries directory).flatMap (entryFound tree directory)
  else [.missing directory]

/-- What there is in the trust directories, one after the other. -/
def walk (tree : FileTree) (directories : List String) : List Found :=
  directories.flatMap (directoryFound tree)

/-! ### From the walk to the items -/

/-- The item that a file is by its name. -/
def Found.item? : Found → Option Item
  | missing directory => some (.unusable directory)
  | file path organisation name contents =>
    if FileTree.extension? name.text = some certificateExtension then
      some (.certificates path contents)
    else if FileTree.extension? name.text = some lscExtension then
      organisation.map fun vo => .lsc path vo (FileTree.stem name.text) contents
    else none

variable {missing : MissingDirectory} {tree : FileTree} {directory : String}
  {directories : List String} {snapshot : TrustSnapshot}

open FileTree (join)

section Readable

variable (hfaults : tree.faults = [])

include hfaults

theorem fileItem_of_find {path : String} {contents : Bytes}
    (h : tree.find path = .ok (.file contents)) (item : Bytes → Item) :
    fileItem tree path item = item contents := by
  rw [fileItem, FileTree.readBytes, h, FileTree.fault?, hfaults]
  rfl

theorem organisationItem?_eq (directory vo : String) (name : FileName) :
    (organisationItem? tree directory vo name).toList =
      (fileFound tree (some vo) directory name).filterMap Found.item? := by
  have hdistinct : certificateExtension ≠ lscExtension := by decide
  rcases hfind : tree.find (join directory name.text) with _ | ⟨contents | -⟩
  · simp [organisationItem?, fileFound, FileTree.isFile, hfind]
  · simp only [organisationItem?, fileFound, FileTree.isFile, hfind, if_true,
      fileItem_of_find hfaults hfind]
    by_cases hpem : FileTree.extension? name.text = some certificateExtension
    · simp [hpem, hdistinct, Found.item?]
    · by_cases hlsc : FileTree.extension? name.text = some lscExtension <;>
        simp [hlsc, hpem, hdistinct.symm, Found.item?]
  · simp [organisationItem?, fileFound, FileTree.isFile, hfind]

theorem organisationItems_eq {directory : String} (hdirectory : tree.isDirectory directory = true)
    (vo : String) : organisationItems tree directory vo =
      ((tree.entries directory).flatMap (fileFound tree (some vo) directory)).filterMap
        Found.item? := by
  rw [organisationItems, FileTree.visibleNames_eq_entries hfaults hdirectory,
    List.filterMap_flatMap]
  dsimp only
  rw [List.filterMap_eq_flatMap_toList]
  exact List.flatMap_congr fun name _ => organisationItem?_eq hfaults directory vo name

theorem entryItems_eq (directory : String) (name : FileName) :
    entryItems tree directory name = (entryFound tree directory name).filterMap Found.item? := by
  simp only [entryItems, entryFound, fileFound, FileTree.isDirectory_iff]
  rcases hfind : tree.find (join directory name.text) with _ | ⟨contents | -⟩
  · simp [FileTree.isFile, hfind]
  · by_cases hpem : FileTree.extension? name.text = some certificateExtension <;>
      simp [FileTree.isFile, hfind, hpem, fileItem_of_find hfaults hfind, Found.item?]
  · simp [organisationItems_eq hfaults (FileTree.isDirectory_iff.2 hfind)]

theorem directoryItems_eq_ok_iff (directory : String) (items : List Item) :
    directoryItems missing tree directory = .ok items ↔
      (missing = .fail → tree.isDirectory directory = true) ∧
        (directoryFound tree directory).filterMap Found.item? = items := by
  rw [directoryItems.eq_def, directoryFound]
  by_cases hdirectory : tree.isDirectory directory = true
  · have hentries : entryItems tree directory =
        fun name => (entryFound tree directory name).filterMap Found.item? :=
      funext (entryItems_eq hfaults directory)
    rw [if_pos hdirectory, if_pos hdirectory,
      FileTree.visibleNames_eq_entries hfaults hdirectory, hentries, List.filterMap_flatMap]
    simp [hdirectory]
  · rw [if_neg hdirectory, if_neg hdirectory]
    cases missing <;> simp [hdirectory, Found.item?]

/-- Trust directories are loaded if they exist, or do not have to, and there is anything in them that
can be used. What is loaded is made of what the walk comes by. -/
theorem load_eq_ok_iff : load missing tree directories = .ok snapshot ↔
    directories ≠ [] ∧
      (∀ directory ∈ directories, missing = .fail → tree.isDirectory directory = true) ∧
      ofItems ((walk tree directories).filterMap Found.item?) = snapshot ∧
      snapshot.isEmpty = false := by
  have hitems : ∀ items, directories.mapM (directoryItems missing tree) = .ok items ↔
      (∀ directory ∈ directories, missing = .fail → tree.isDirectory directory = true) ∧
        (directories.map fun directory =>
          (directoryFound tree directory).filterMap Found.item?) = items :=
    fun items => mapM_eq_ok_iff_forall (directoryItems_eq_ok_iff hfaults)
  have hwalk : (directories.map fun directory =>
      (directoryFound tree directory).filterMap Found.item?).flatten =
        (walk tree directories).filterMap Found.item? := by
    rw [walk, List.filterMap_flatMap, List.flatMap_def]
  have hnonempty : ∀ loaded : TrustSnapshot,
      (if loaded.isEmpty then .error .nothingTrusted else .ok loaded : Except TrustError _) =
        .ok snapshot ↔ loaded = snapshot ∧ snapshot.isEmpty = false := by
    intro loaded
    split
    case isTrue hloaded => simpa using fun heq : loaded = snapshot => heq ▸ hloaded
    case isFalse hloaded =>
      simpa using fun heq : loaded = snapshot => heq ▸ Bool.not_eq_true _ ▸ hloaded
  rw [load]
  cases directories with
  | nil => simp
  | cons first rest =>
    rw [List.isEmpty_cons, if_neg Bool.false_ne_true, bind_eq_ok_iff]
    simp only [hitems, and_assoc, exists_and_left, exists_eq_left', hwalk, hnonempty]
    simp

end Readable

/-! ### What the walk comes by -/

theorem mem_fileFound_iff {organisation : Option String} {name : FileName} {found : Found} :
    found ∈ fileFound tree organisation directory name ↔
      ∃ contents, tree.find (join directory name.text) = .ok (.file contents) ∧
        found = .file (join directory name.text) organisation name contents := by
  simp only [fileFound]
  split <;> simp_all

/-- Each file that the walk comes by is an entry of a directory, with its contents. -/
theorem exists_entry_of_mem_walk {path : String} {organisation : Option String} {name : FileName}
    {contents : Bytes} (h : .file path organisation name contents ∈ walk tree directories) :
    ∃ directory, path = join directory name.text ∧ name ∈ tree.entries directory ∧
      tree.find path = .ok (.file contents) := by
  have hfile : ∀ {directory : String} {vo : Option String} {name' : FileName},
      name' ∈ tree.entries directory →
      .file path organisation name contents ∈ fileFound tree vo directory name' →
      ∃ directory, path = join directory name.text ∧ name ∈ tree.entries directory ∧
        tree.find path = .ok (.file contents) := by
    intro directory vo name' hname h
    obtain ⟨contents', hfind, heq⟩ := mem_fileFound_iff.1 h
    cases heq
    exact ⟨directory, rfl, hname, hfind⟩
  obtain ⟨directory, -, h⟩ := List.mem_flatMap.1 h
  rw [directoryFound] at h
  split at h
  · obtain ⟨name', hname, h⟩ := List.mem_flatMap.1 h
    simp only [entryFound] at h
    split at h
    · obtain ⟨name'', hname', h⟩ := List.mem_flatMap.1 h
      exact hfile hname' h
    · exact hfile hname h
  · cases List.mem_singleton.1 h

theorem isVisible_of_mem_walk (hfaults : tree.faults = []) {found : Found}
    (h : found ∈ walk tree directories) : found.IsVisible := by
  cases found with
  | missing => trivial
  | file path organisation name contents =>
    obtain ⟨directory, -, hname, -⟩ := exists_entry_of_mem_walk h
    exact ((FileTree.mem_entries_iff hfaults).1 hname).2.1

/-! ### The walk past a new file -/

section Put

variable {path : List FileName} {contents : Bytes} {organisation : Option String} {name : FileName}

theorem filter_fileFound_put_of_eq (hname : tree.components directory ++ [name] = path) :
    (fileFound (tree.put path (.file contents)) organisation directory name).filter
      (fun f => ¬f.IsAt tree path) = [] := by
  refine List.filter_eq_nil_iff.2 fun found hfound => ?_
  obtain ⟨contents', -, rfl⟩ := mem_fileFound_iff.1 hfound
  simpa [Found.IsAt] using hname

variable (hnone : tree.node? path = none)

include hnone

/-- Of a name in a directory, the new file changes what it leads to only if it is at its path. -/
theorem find_join_put (hdirectory : tree.isDirectory directory = true) (name : FileName) :
    (tree.put path (.file contents)).find (join directory name.text) =
      if tree.components directory ++ [name] = path then .ok (.file contents)
      else tree.find (join directory name.text) := by
  have hput : (tree.put path (.file contents)).isDirectory directory = true := by
    rwa [FileTree.isDirectory_put hnone]
  have hcomponents :
      (tree.put path (.file contents)).components directory = tree.components directory := rfl
  rw [FileTree.find_join hput, FileTree.find_join hdirectory, hcomponents, FileTree.nodeAt,
    FileTree.node?_put (FileTree.ne_nil_of_node?_eq_none hnone)]
  by_cases hname : tree.components directory ++ [name] = path
  · rw [if_pos hname, if_pos hname]
  · rw [if_neg hname, if_neg hname, FileTree.nodeAt]

theorem filter_fileFound_put_of_ne (hdirectory : tree.isDirectory directory = true)
    (hname : tree.components directory ++ [name] ≠ path) :
    (fileFound (tree.put path (.file contents)) organisation directory name).filter
      (fun f => ¬f.IsAt tree path) = fileFound tree organisation directory name := by
  have hsame : fileFound (tree.put path (.file contents)) organisation directory name =
      fileFound tree organisation directory name := by
    simp only [fileFound, find_join_put hnone hdirectory, if_neg hname]
  rw [hsame]
  refine List.filter_eq_self.2 fun found hfound => ?_
  obtain ⟨contents', -, rfl⟩ := mem_fileFound_iff.1 hfound
  simpa [Found.IsAt] using hname

theorem filter_entryFound_put_of_eq (hdirectory : tree.isDirectory directory = true)
    (hname : tree.components directory ++ [name] = path) :
    (entryFound (tree.put path (.file contents)) directory name).filter
      (fun f => ¬f.IsAt tree path) = [] := by
  simp only [entryFound, find_join_put hnone hdirectory, if_pos hname]
  exact filter_fileFound_put_of_eq hname

variable (hfaults : tree.faults = [])

include hfaults

theorem filter_flatMap_entries_put {found found' : FileName → List Found}
    (hat : ∀ name, tree.components directory ++ [name] = path →
      (found' name).filter (fun f => ¬f.IsAt tree path) = [])
    (hother : ∀ name, tree.components directory ++ [name] ≠ path →
      (found' name).filter (fun f => ¬f.IsAt tree path) = found name) :
    (((tree.put path (.file contents)).entries directory).flatMap found').filter
        (fun f => ¬f.IsAt tree path) = (tree.entries directory).flatMap found := by
  rw [List.filter_flatMap, ← FileTree.filter_entries_put hfaults hnone, flatMap_filter_eq]
  refine List.flatMap_congr fun name _ => ?_
  by_cases hname : tree.components directory ++ [name] = path
  · rw [hat name hname, if_neg (by simpa using hname)]
  · rw [hother name hname, if_pos (by simpa using hname)]

theorem filter_entryFound_put_of_ne (hdirectory : tree.isDirectory directory = true)
    (hname : tree.components directory ++ [name] ≠ path) :
    (entryFound (tree.put path (.file contents)) directory name).filter
      (fun f => ¬f.IsAt tree path) = entryFound tree directory name := by
  simp only [entryFound, find_join_put hnone hdirectory, if_neg hname]
  split
  case h_1 hfind =>
    exact filter_flatMap_entries_put hnone hfaults (fun _ => filter_fileFound_put_of_eq)
      fun _ => filter_fileFound_put_of_ne hnone (FileTree.isDirectory_iff.2 hfind)
  case h_2 => exact filter_fileFound_put_of_ne hnone hdirectory hname

theorem filter_directoryFound_put (directory : String) :
    (directoryFound (tree.put path (.file contents)) directory).filter
      (fun f => ¬f.IsAt tree path) = directoryFound tree directory := by
  rw [directoryFound, directoryFound, FileTree.isDirectory_put hnone]
  split
  case isTrue hdirectory =>
    exact filter_flatMap_entries_put hnone hfaults
      (fun _ => filter_entryFound_put_of_eq hnone hdirectory)
      fun _ => filter_entryFound_put_of_ne hnone hfaults hdirectory
  case isFalse => simp [Found.IsAt]

/-- The walk comes by the new file, and otherwise by what it came by before. -/
theorem filter_walk_put (contents : Bytes) (directories : List String) :
    (walk (tree.put path (.file contents)) directories).filter (fun f => ¬f.IsAt tree path) =
      walk tree directories := by
  rw [walk, walk, List.filter_flatMap]
  exact List.flatMap_congr fun directory _ => filter_directoryFound_put hnone hfaults directory

end Put

end TrustSnapshot

end GridAuthz
