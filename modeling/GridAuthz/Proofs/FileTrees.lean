import GridAuthz.FileTree
import GridAuthz.Proofs.Sorting
import GridAuthz.Proofs.Steps

/-!
# Reading file trees

What a directory holds depends on what is at the directory and below it and on nothing else. Two
trees with the same there (`FileTree.SameBelow`) list the same names (`SameBelow.visibleNames_eq`),
and each of these names leads to something that is again the same in both (`SameBelow.join`).
-/

namespace GridAuthz

theorem FileName.eq_of_text_eq {a b : FileName} (h : a.text = b.text) : a = b := by
  cases a
  cases b
  cases h
  rfl

namespace FileTree

/-! ### Paths -/

@[simp] theorem names_fileName (name : FileName) : names name.text = [name.text] := by
  rw [names, List.splitOn_eq_singleton name.proper.2.2.2, List.map_singleton, String.ofList_toList]

/-- A name is put behind the text of a directory, in the place of an empty name if that is what the
text ends with. -/
theorem exists_names_join (directory : String) (name : FileName) :
    ∃ before, names (join directory name.text) = before ++ [name.text] ∧
      (names directory = before ∨ names directory = before ++ [""]) := by
  by_cases hempty : directory = ""
  · refine ⟨[], ?_, .inr ?_⟩
    · simp [join, hempty]
    · simp [hempty, names]
  by_cases hslash : directory.toList.getLast? = some '/'
  · obtain ⟨before, hbefore⟩ := List.getLast?_eq_some_iff.1 hslash
    refine ⟨(before.splitOn '/').map String.ofList, ?_, .inr ?_⟩
    · rw [join, if_pos (.inr hslash), names, String.toList_append, hbefore, List.append_assoc,
        List.singleton_append, List.splitOn_append_cons_self, List.map_append]
      exact congrArg _ (names_fileName name)
    · rw [names, hbefore, List.splitOn_append_cons_self, List.map_append]
      simp
  · refine ⟨names directory, ?_, .inl rfl⟩
    have htext : (directory ++ "/" ++ name.text).toList =
        directory.toList ++ '/' :: name.text.toList := by simp
    rw [join, if_neg (by simp [hempty, hslash]), names, htext, List.splitOn_append_cons_self,
      List.map_append]
    exact congrArg _ (names_fileName name)

@[simp] theorem step_empty (path : List FileName) : step path "" = path := by
  simp [step, IsFileName]

@[simp] theorem step_fileName (path : List FileName) (name : FileName) :
    step path name.text = path ++ [name] := by
  rw [step, if_neg name.proper.2.2.1, dif_pos name.proper]

@[simp] theorem isAbsolute_join (directory : String) (name : FileName) :
    isAbsolute (join directory name.text) = isAbsolute directory := by
  by_cases hempty : directory = ""
  · have hslash : '/' ∉ name.text.toList := name.proper.2.2.2
    subst hempty
    rw [isAbsolute, isAbsolute, join, if_pos (.inl rfl), String.empty_append]
    cases hname : name.text.toList with
    | nil => rfl
    | cons c cs =>
      rw [hname] at hslash
      simpa using fun h : c = '/' => hslash (h ▸ List.mem_cons_self)
  · have hhead : ∀ more : String, isAbsolute (directory ++ more) = isAbsolute directory := by
      intro more
      obtain ⟨c, cs, hcs⟩ := List.exists_cons_of_ne_nil
        (fun h => hempty (String.toList_eq_nil_iff.1 h))
      simp [isAbsolute, hcs]
    rw [join]
    split
    · exact hhead _
    · rw [String.append_assoc]
      exact hhead _

@[simp] theorem base_join (t : FileTree) (directory : String) (name : FileName) :
    t.base (join directory name.text) = t.base directory := by
  rw [base, base, isAbsolute_join]

/-- The path of a name in a directory. -/
@[simp] theorem components_join (t : FileTree) (directory : String) (name : FileName) :
    t.components (join directory name.text) = t.components directory ++ [name] := by
  obtain ⟨before, hnames, hdirectory | hdirectory⟩ := exists_names_join directory name <;>
    simp [components, hnames, hdirectory]

/-- The text of the path of a name is not empty. -/
theorem join_ne_empty (directory : String) (name : FileName) : join directory name.text ≠ "" := by
  obtain ⟨before, hnames, -⟩ := exists_names_join directory name
  intro hempty
  rw [hempty] at hnames
  have hlast : [""] = before ++ [name.text] := hnames
  exact name.proper.1 (by simpa using congrArg List.getLast? hlast.symm)

/-! ### Following names -/

variable {t t' : FileTree} {directory : String}

theorem follow_append (path : List FileName) (names names' : List String) :
    t.follow path (names ++ names') = t.follow path names >>= fun path' => t.follow path' names' := by
  induction names generalizing path with
  | nil => rfl
  | cons name names ih =>
    rw [List.cons_append, follow, follow]
    cases t.node? path with
    | none => rfl
    | some node =>
      cases node with
      | file contents => rfl
      | directory => exact ih _

/-- Names lead to the path that they are the steps of. -/
theorem eq_foldl_of_follow {path path' : List FileName} {names : List String}
    (h : t.follow path names = .ok path') : path' = names.foldl step path := by
  induction names generalizing path with
  | nil => exact (Except.ok.inj h).symm
  | cons name names ih =>
    rw [follow] at h
    split at h
    · exact ih h
    · cases h
    · cases h

theorem nodeAt_eq_ok_iff {path : List FileName} {node : FileNode} :
    t.nodeAt path = .ok node ↔ t.node? path = some node := by
  rw [nodeAt]
  split <;> simp_all

/-- Where the names of a text lead, there is what the text leads to. -/
theorem find_eq_ok_iff {path : String} {node : FileNode} : t.find path = .ok node ↔
    path ≠ "" ∧ t.follow (t.base path) (names path) = .ok (t.components path) ∧
      t.node? (t.components path) = some node := by
  rw [find]
  split
  case isTrue hempty => simp [hempty]
  case isFalse hempty =>
    rw [bind_eq_ok_iff]
    simp only [nodeAt_eq_ok_iff]
    constructor
    · rintro ⟨path', hfollow, hnode⟩
      obtain rfl : path' = t.components path := eq_foldl_of_follow hfollow
      exact ⟨hempty, hfollow, hnode⟩
    · rintro ⟨-, hfollow, hnode⟩
      exact ⟨_, hfollow, hnode⟩

theorem isDirectory_iff : t.isDirectory directory = true ↔ t.find directory = .ok .directory := by
  rw [isDirectory]
  split <;> simp_all

/-- A name in a directory leads to what is there. -/
theorem find_join (h : t.isDirectory directory = true) (name : FileName) :
    t.find (join directory name.text) = t.nodeAt (t.components directory ++ [name]) := by
  obtain ⟨-, hfollow, hnode⟩ := find_eq_ok_iff.1 (isDirectory_iff.1 h)
  obtain ⟨before, hnames, hdirectory⟩ := exists_names_join directory name
  have hbefore : t.follow (t.base directory) before = .ok (t.components directory) := by
    rcases hdirectory with heq | heq
    · rwa [heq] at hfollow
    · rw [heq, follow_append, bind_eq_ok_iff] at hfollow
      obtain ⟨path, hpath, hlast⟩ := hfollow
      have hstep := eq_foldl_of_follow hlast
      rw [List.foldl_cons, List.foldl_nil, step_empty] at hstep
      rwa [hstep]
  have hname : t.follow (t.components directory) [name.text] =
      .ok (t.components directory ++ [name]) := by
    rw [follow, hnode, follow, step_fileName]
  rw [find, if_neg (join_ne_empty directory name), base_join, hnames, follow_append, hbefore]
  exact congrArg (· >>= t.nodeAt) hname

/-! ### Directories -/

theorem nameIn?_eq_some_iff {path path' : List FileName} {name : FileName} :
    nameIn? path path' = some name ↔ path' = path ++ [name] := by
  rw [nameIn?, Option.ite_none_right_eq_some]
  constructor
  · rintro ⟨rfl, hlast⟩
    exact (List.dropLast_append_getLast? name hlast).symm
  · rintro rfl
    simp

theorem mem_children_iff {path : List FileName} {name : FileName} :
    name ∈ (t.nodes.map Prod.fst).filterMap (nameIn? path) ↔
      (t.node? (path ++ [name])).isSome = true := by
  simp [List.mem_filterMap, nameIn?_eq_some_iff, node?, List.lookup_isSome_iff]

theorem nodup_children (t : FileTree) (path : List FileName) :
    ((t.nodes.map Prod.fst).filterMap (nameIn? path)).Nodup := by
  refine t.distinct.filterMap fun p p' name hp hp' => ?_
  rw [nameIn?_eq_some_iff.1 hp, nameIn?_eq_some_iff.1 hp']

theorem mem_namesAt_iff {path : List FileName} {name : FileName} : name ∈ t.namesAt path ↔
    isHidden name.text = false ∧ (t.node? (path ++ [name])).isSome = true := by
  rw [namesAt, List.mem_mergeSort, List.mem_filter, mem_children_iff, and_comm, Bool.not_eq_true']

theorem pairwise_namesAt (t : FileTree) (path : List FileName) :
    (t.namesAt path).Pairwise fun a b => a.text < b.text :=
  pairwise_lt_mergeSort (((nodup_children t path).filter _).imp fun hne htext =>
    hne (FileName.eq_of_text_eq htext))

theorem visibleNames_of_isDirectory (h : t.isDirectory directory = true) :
    t.visibleNames directory = match t.fault? (t.components directory) with
      | some reason => .error (.unreadable reason)
      | none => .ok (t.namesAt (t.components directory)) := by
  rw [visibleNames, isDirectory_iff.1 h]
  rfl

/-! ### The same directory in two trees -/

/-- The same is found in two trees at a directory and below it, and the same cannot be read. -/
structure SameBelow (t t' : FileTree) (directory : String) : Prop where
  /-- It exists in both or in neither. -/
  isDirectory_eq : t.isDirectory directory = t'.isDirectory directory
  /-- There are the same files and directories. -/
  node?_eq : ∀ below, t.node? (t.components directory ++ below) =
    t'.node? (t'.components directory ++ below)
  /-- The system refuses the same. -/
  fault?_eq : ∀ below, t.fault? (t.components directory ++ below) =
    t'.fault? (t'.components directory ++ below)

namespace SameBelow

theorem refl (t : FileTree) (directory : String) : SameBelow t t directory :=
  ⟨rfl, fun _ => rfl, fun _ => rfl⟩

variable (h : SameBelow t t' directory) (hdirectory : t.isDirectory directory = true)

include h hdirectory

theorem find_join_eq (name : FileName) :
    t.find (FileTree.join directory name.text) = t'.find (FileTree.join directory name.text) := by
  rw [find_join hdirectory, find_join (h.isDirectory_eq ▸ hdirectory), nodeAt, nodeAt, h.node?_eq]

/-- What is below a name in the directory is below the directory. -/
theorem join (name : FileName) : SameBelow t t' (join directory name.text) where
  isDirectory_eq := by rw [isDirectory, isDirectory, h.find_join_eq hdirectory]
  node?_eq := fun below => by
    rw [components_join, components_join, List.append_assoc, List.append_assoc, h.node?_eq]
  fault?_eq := fun below => by
    rw [components_join, components_join, List.append_assoc, List.append_assoc, h.fault?_eq]

theorem isFile_join_eq (name : FileName) :
    t.isFile (FileTree.join directory name.text) =
      t'.isFile (FileTree.join directory name.text) := by
  rw [isFile, isFile, h.find_join_eq hdirectory]

theorem readBytes_join_eq (name : FileName) :
    t.readBytes (FileTree.join directory name.text) =
      t'.readBytes (FileTree.join directory name.text) := by
  rw [readBytes, readBytes, h.find_join_eq hdirectory, components_join, components_join,
    h.fault?_eq]

theorem visibleNames_eq : t.visibleNames directory = t'.visibleNames directory := by
  have hfault : t.fault? (t.components directory) = t'.fault? (t'.components directory) := by
    simpa using h.fault?_eq []
  have hnames : t.namesAt (t.components directory) = t'.namesAt (t'.components directory) := by
    refine eq_of_pairwise_lt (pairwise_namesAt t _) (pairwise_namesAt t' _) fun name => ?_
    rw [mem_namesAt_iff, mem_namesAt_iff, h.node?_eq]
  rw [visibleNames_of_isDirectory hdirectory,
    visibleNames_of_isDirectory (h.isDirectory_eq ▸ hdirectory), hfault, hnames]

end SameBelow

end FileTree

end GridAuthz
