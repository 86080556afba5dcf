import GridAuthz.Proofs.FileTrees
import Mathlib.Data.List.TakeDrop
import Mathlib.Data.List.TakeWhile

/-!
# Entries of directories

A directory is listed in the order of the names in it, each name once, and without those that are hidden
(`FileTree.mem_entries_iff`, `FileTree.pairwise_entries`). The extension of a name that is listed is a
matter of its last characters (`FileTree.extension?_eq_some_iff_endsIn`). A file that is put where
nothing was adds its name to one listing (`FileTree.filter_entries_put`) and makes no directory
(`FileTree.isDirectory_put`).
-/

namespace GridAuthz

/-- A name ends in a text. -/
def FileName.EndsIn (name : FileName) (ending : String) : Prop :=
  ending.toList <:+ name.text.toList

instance (ending : String) : DecidablePred (FileName.EndsIn · ending) := fun name =>
  inferInstanceAs (Decidable (ending.toList <:+ name.text.toList))

namespace FileTree

/-! ### Extensions -/

section Extension

variable {name base ext : String}

/-- An extension stands behind the last dot, which is not the first character of the name. -/
theorem extension?_eq_some_iff : extension? name = some ext ↔
    '.' ∉ ext.toList ∧ ∃ base, base ≠ "" ∧ name = base ++ "." ++ ext := by
  rw [extension?, List.span_eq_takeWhile_dropWhile]
  have hcut := List.takeWhile_append_dropWhile (p := (· ≠ '.')) (l := name.toList.reverse)
  constructor
  · intro h
    split at h
    case h_1 after c rest hspan =>
      obtain ⟨hafter, hrest⟩ := Prod.mk.inj hspan
      have hdot : '.' ∉ after := by
        rw [← hafter]
        exact fun hdot => by simpa using List.mem_takeWhile_imp hdot
      rw [hafter, hrest] at hcut
      cases h
      refine ⟨by simpa using hdot, String.ofList (c :: rest).reverse, by simp,
        String.toList_injective ?_⟩
      have hname := congrArg List.reverse hcut
      rw [List.reverse_reverse] at hname
      simp [← hname]
    case h_2 => cases h
  · rintro ⟨hdot, base, hbase, rfl⟩
    obtain ⟨c, cs, hcs⟩ := List.exists_cons_of_ne_nil (l := base.toList.reverse) (by simpa using hbase)
    have hreverse : (base ++ "." ++ ext).toList.reverse =
        ext.toList.reverse ++ '.' :: c :: cs := by simp [hcs]
    have hafter : ∀ d ∈ ext.toList.reverse, decide (d ≠ '.') = true := by
      intro d hd
      rw [decide_eq_true_eq]
      rintro rfl
      exact hdot (List.mem_reverse.1 hd)
    rw [hreverse, List.takeWhile_append_of_pos hafter, List.dropWhile_append_of_pos hafter]
    simp

/-- For a name that is not hidden, the extension is a matter of its last characters. -/
theorem extension?_eq_some_iff_endsIn {name : FileName} (hvisible : isHidden name.text = false)
    (hdot : '.' ∉ ext.toList) : extension? name.text = some ext ↔ name.EndsIn ("." ++ ext) := by
  rw [extension?_eq_some_iff, and_iff_right hdot]
  constructor
  · rintro ⟨base, -, hname⟩
    exact ⟨base.toList, by simp [hname]⟩
  · rintro ⟨before, hname⟩
    refine ⟨String.ofList before, ?_, String.toList_injective (by simp [← hname])⟩
    rintro hempty
    obtain rfl : before = [] := by simpa using hempty
    simp [isHidden, ← hname] at hvisible

theorem stem_append (hbase : base ≠ "") (hdot : '.' ∉ ext.toList) :
    stem (base ++ "." ++ ext) = base := by
  have hlength : (base ++ "." ++ ext).toList.length - ext.toList.length - 1 =
      base.toList.length := by
    simp only [String.toList_append, List.length_append, show ".".toList.length = 1 from rfl]
    omega
  rw [stem, extension?_eq_some_iff.2 ⟨hdot, base, hbase, rfl⟩]
  dsimp only
  rw [hlength]
  simp

end Extension

/-! ### Listing -/

variable {t : FileTree} {directory : String}

/-- The names in a directory that are not hidden, in order. -/
def entries (t : FileTree) (directory : String) : List FileName :=
  (t.visibleNames directory).toOption.getD []

theorem visibleNames_eq_namesAt (hfaults : t.faults = [])
    (hdirectory : t.isDirectory directory = true) :
    t.visibleNames directory = .ok (t.namesAt (t.components directory)) := by
  rw [visibleNames_of_isDirectory hdirectory, fault?, hfaults]
  rfl

theorem visibleNames_eq_entries (hfaults : t.faults = [])
    (hdirectory : t.isDirectory directory = true) :
    t.visibleNames directory = .ok (t.entries directory) := by
  rw [entries, visibleNames_eq_namesAt hfaults hdirectory]
  rfl

theorem entries_eq (hfaults : t.faults = []) (directory : String) : t.entries directory =
    if t.isDirectory directory then t.namesAt (t.components directory) else [] := by
  split
  case isTrue hdirectory =>
    rw [entries, visibleNames_eq_namesAt hfaults hdirectory]
    rfl
  case isFalse hdirectory =>
    rw [entries, visibleNames]
    cases hfind : t.find directory with
    | error error => rfl
    | ok node =>
      cases node with
      | file contents => rfl
      | directory => exact absurd (isDirectory_iff.2 hfind) hdirectory

theorem mem_entries_iff (hfaults : t.faults = []) {name : FileName} :
    name ∈ t.entries directory ↔ t.isDirectory directory = true ∧
      isHidden name.text = false ∧ (t.node? (t.components directory ++ [name])).isSome = true := by
  rw [entries_eq hfaults, List.mem_ite_nil_right, mem_namesAt_iff]

theorem pairwise_entries (hfaults : t.faults = []) (directory : String) :
    (t.entries directory).Pairwise fun a b => a.text < b.text := by
  rw [entries_eq hfaults]
  split
  · exact pairwise_namesAt t _
  · exact .nil

/-! ### Putting a file where nothing was -/

section Put

variable {path : List FileName} {node : FileNode} {contents : Bytes}

theorem node?_put (hpath : path ≠ []) (path' : List FileName) :
    (t.put path node).node? path' = if path' = path then some node else t.node? path' := by
  by_cases hroot : path' = []
  · subst hroot
    rw [if_neg hpath.symm]
    rfl
  have hempty : path'.isEmpty = false := by simpa using hroot
  rw [node?, node?, hempty]
  simp only [Bool.false_eq_true, if_false, put]
  split
  case isTrue heq => simp [heq]
  case isFalse hne =>
    have hother : ∀ nodes : List (List FileName × FileNode),
        (nodes.filter fun entry => entry.1 ≠ path).lookup path' = nodes.lookup path' := by
      intro nodes
      induction nodes with
      | nil => rfl
      | cons entry nodes ih =>
        by_cases hentry : entry.1 = path
        · rw [List.filter_cons_of_neg (by simp [hentry]), ih, List.lookup_cons,
            beq_false_of_ne (hentry ▸ hne)]
        · rw [List.filter_cons_of_pos (by simp [hentry]), List.lookup_cons, List.lookup_cons, ih]
    rw [List.lookup_cons, beq_false_of_ne hne, hother]

theorem ne_nil_of_node?_eq_none (h : t.node? path = none) : path ≠ [] := by
  rintro rfl
  cases h

theorem node?_put_eq_directory_iff (h : t.node? path = none) (path' : List FileName) :
    (t.put path (.file contents)).node? path' = some .directory ↔
      t.node? path' = some .directory := by
  rw [node?_put (ne_nil_of_node?_eq_none h)]
  split
  case isTrue heq => simp [heq, h]
  case isFalse => rfl

theorem follow_congr {t' : FileTree}
    (h : ∀ path, t.node? path = some .directory ↔ t'.node? path = some .directory)
    {names : List String} {path path' : List FileName} :
    t.follow path names = .ok path' ↔ t'.follow path names = .ok path' := by
  induction names generalizing path with
  | nil => rfl
  | cons name names ih =>
    have hstep : ∀ tree : FileTree, tree.follow path (name :: names) = .ok path' ↔
        tree.node? path = some .directory ∧ tree.follow (step path name) names = .ok path' := by
      intro tree
      rw [follow]
      split <;> simp_all
    rw [hstep, hstep, h, ih]

/-- The directories are the same as before. -/
theorem isDirectory_put (h : t.node? path = none) (directory : String) :
    (t.put path (.file contents)).isDirectory directory = t.isDirectory directory := by
  have hdirectory : ∀ path', (t.put path (.file contents)).node? path' = some .directory ↔
      t.node? path' = some .directory := node?_put_eq_directory_iff h
  rw [Bool.eq_iff_iff, isDirectory_iff, isDirectory_iff, find_eq_ok_iff, find_eq_ok_iff,
    follow_congr hdirectory, hdirectory]
  rfl

/-- The entries are the same as before but for the name of the new file. -/
theorem filter_entries_put (hfaults : t.faults = []) (h : t.node? path = none)
    (directory : String) :
    ((t.put path (.file contents)).entries directory).filter
        (fun name => t.components directory ++ [name] ≠ path) = t.entries directory := by
  have hput : (t.put path (.file contents)).faults = [] := hfaults
  have hcomponents : (t.put path (.file contents)).components directory = t.components directory :=
    rfl
  refine eq_of_pairwise_lt ((pairwise_entries hput _).filter _) (pairwise_entries hfaults directory)
    fun name => ?_
  rw [List.mem_filter, mem_entries_iff hput, mem_entries_iff hfaults, isDirectory_put h,
    hcomponents, node?_put (ne_nil_of_node?_eq_none h)]
  by_cases hname : t.components directory ++ [name] = path <;> simp [hname, h]

end Put

end FileTree

end GridAuthz
