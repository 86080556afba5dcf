import GridAuthz.Proofs.FileTrees
import GridAuthz.Proofs.Steps
import GridAuthz.Trust.Directory

/-!
# Loading trust directories

Loading reads the trust directories and nothing else, so it comes to the same, success or error, as
long as each directory stays as it is (`TrustSnapshot.load_congr`). Whether directories have to exist
makes a difference only when one does not (`TrustSnapshot.load_skip_of_load_fail`).
-/

namespace GridAuthz

namespace TrustSnapshot

variable {missing : MissingDirectory} {tree tree' : FileTree} {directory : String}
  {directories : List String} {snapshot : TrustSnapshot}

open FileTree (SameBelow)

/-! ### What is read -/

section Congr

variable (h : SameBelow tree tree' directory) (hdirectory : tree.isDirectory directory = true)

include h hdirectory

theorem fileItem_congr (name : FileName) (item : Bytes → Item) :
    fileItem tree (FileTree.join directory name.text) item =
      fileItem tree' (FileTree.join directory name.text) item := by
  rw [fileItem, fileItem, h.readBytes_join_eq hdirectory]

theorem organisationItem?_congr (vo : String) (name : FileName) :
    organisationItem? tree directory vo name = organisationItem? tree' directory vo name := by
  simp only [organisationItem?, h.isFile_join_eq hdirectory, fileItem_congr h hdirectory]

theorem organisationItems_congr (vo : String) :
    organisationItems tree directory vo = organisationItems tree' directory vo := by
  have hitem : organisationItem? tree directory vo = organisationItem? tree' directory vo :=
    funext (organisationItem?_congr h hdirectory vo)
  rw [organisationItems, organisationItems, h.visibleNames_eq hdirectory, hitem]

theorem entryItems_congr (name : FileName) :
    entryItems tree directory name = entryItems tree' directory name := by
  have hname := h.join hdirectory name
  simp only [entryItems, ← hname.isDirectory_eq]
  split
  case isTrue hentry => exact organisationItems_congr hname hentry name.text
  case isFalse => rw [h.isFile_join_eq hdirectory, fileItem_congr h hdirectory]

end Congr

theorem directoryItems_congr (h : SameBelow tree tree' directory) :
    directoryItems missing tree directory = directoryItems missing tree' directory := by
  rw [directoryItems.eq_def, directoryItems.eq_def, ← h.isDirectory_eq]
  split
  case isTrue hdirectory =>
    have hentries : entryItems tree directory = entryItems tree' directory :=
      funext (entryItems_congr h hdirectory)
    rw [h.visibleNames_eq hdirectory, hentries]
  case isFalse => rfl

/-- Only the trust directories matter. -/
theorem load_congr (h : ∀ directory ∈ directories, SameBelow tree tree' directory) :
    load missing tree directories = load missing tree' directories := by
  have hitems : directories.mapM (directoryItems missing tree) =
      directories.mapM (directoryItems missing tree') :=
    mapM_congr fun directory hdirectory => directoryItems_congr (h directory hdirectory)
  rw [load, load, hitems]

/-! ### What comes of it -/

/-- Nothing is never loaded. -/
theorem isEmpty_of_load (h : load missing tree directories = .ok snapshot) :
    snapshot.isEmpty = false := by
  rw [load] at h
  split at h
  · cases h
  · obtain ⟨items, -, h⟩ := bind_eq_ok_iff.1 h
    dsimp only at h
    split at h
    · cases h
    · next hnonempty =>
      cases h
      exact Bool.not_eq_true _ ▸ hnonempty

theorem directoryItems_skip_of_fail {items : List Item}
    (h : directoryItems .fail tree directory = .ok items) :
    directoryItems .skip tree directory = .ok items := by
  rw [directoryItems.eq_def] at h ⊢
  split
  · rwa [if_pos ‹_›] at h
  · rw [if_neg ‹_›] at h
    cases h

/-- What is loaded when all directories have to exist is loaded anyway. -/
theorem load_skip_of_load_fail (h : load .fail tree directories = .ok snapshot) :
    load .skip tree directories = .ok snapshot := by
  rw [load] at h ⊢
  split
  · rwa [if_pos ‹_›] at h
  · rw [if_neg ‹_›] at h
    obtain ⟨items, hitems, h⟩ := bind_eq_ok_iff.1 h
    have hskip := mapM_eq_ok_of_imp (fun _ _ _ => directoryItems_skip_of_fail) hitems
    exact bind_eq_ok_iff.2 ⟨items, hskip, h⟩

end TrustSnapshot

end GridAuthz
