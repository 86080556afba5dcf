import Mathlib.Data.List.AList
import GridAuthz.Proofs.Steps
import GridAuthz.Proofs.Trust.Indexes
import GridAuthz.Trust.Directory

/-!
# LSC files in two levels

The files of a snapshot can be kept in a table by organisation and, in it, by host. The keys of such a
table are kept apart from the files, but as long as it is filled file by file they say what the files
say (`LscTable.isFiled_ofFiles`). So the table finds and lists what an index of one level does
(`LscTable.find?_ofFiles`, `LscTable.IsFiled.isListing`), and both are coherent in every snapshot that
is loaded (`TrustSnapshot.load_index`).
-/

namespace GridAuthz

/-! ### Tables in two levels -/

/-- The files of each organisation by host. The keys are kept apart from the files. -/
abbrev LscTable := AList fun _ : String => AList fun _ : String => LscFile

namespace LscTable

/-- Puts a file in its place; one that is there is replaced. -/
def put (t : LscTable) (f : LscFile) : LscTable :=
  t.insert f.vo (((t.lookup f.vo).getD ∅).insert f.host f)

/-- The table of a row of files, put in one after the other. -/
def ofFiles (files : List LscFile) : LscTable := files.foldl put ∅

/-- The file in the place for an organisation and host. -/
def find? (t : LscTable) (vo host : String) : Option LscFile :=
  (t.lookup vo).bind (·.lookup host)

/-- How many files there are, organisation by organisation. -/
def count (t : LscTable) : Nat := (t.entries.map fun entry => entry.2.entries.length).sum

/-- The files of one organisation, in order. -/
def filesOf (hosts : AList fun _ : String => LscFile) : List LscFile :=
  (hosts.entries.map Sigma.snd).mergeSort fun f g => decide (f.host ≤ g.host)

/-- All files, by organisation. -/
def toList (t : LscTable) : List (String × List LscFile) :=
  (t.entries.map fun entry => (entry.1, filesOf entry.2)).mergeSort
    fun entry next => decide (entry.1 ≤ next.1)

/-- Every organisation has a file, and every file is in its own place. -/
structure IsFiled (t : LscTable) : Prop where
  /-- No organisation is without files. -/
  nonempty : ∀ vo hosts, t.lookup vo = some hosts → hosts.entries ≠ []
  /-- A file is in the place that it says. -/
  key_eq : ∀ vo host f, t.find? vo host = some f → f.key = (vo, host)

/-! #### Filling a table -/

theorem find?_put (t : LscTable) (f : LscFile) (vo host : String) :
    (t.put f).find? vo host = if f.key = (vo, host) then some f else t.find? vo host := by
  rw [find?, put]
  by_cases hvo : f.vo = vo
  · subst hvo
    rw [AList.lookup_insert, Option.bind_some]
    by_cases hhost : f.host = host
    · subst hhost
      rw [AList.lookup_insert, if_pos (LscFile.key_eq_mk_iff.2 ⟨rfl, rfl⟩)]
    · rw [AList.lookup_insert_ne (Ne.symm hhost), if_neg fun h => hhost (LscFile.key_eq_mk_iff.1 h).2,
        find?]
      cases t.lookup f.vo <;> rfl
  · rw [AList.lookup_insert_ne (Ne.symm hvo), if_neg fun h => hvo (LscFile.key_eq_mk_iff.1 h).1,
      find?]

theorem IsFiled.put {t : LscTable} (h : t.IsFiled) (f : LscFile) : (t.put f).IsFiled where
  nonempty := by
    intro vo hosts hlookup
    rw [LscTable.put] at hlookup
    by_cases hvo : vo = f.vo
    · subst hvo
      rw [AList.lookup_insert, Option.some.injEq] at hlookup
      rw [← hlookup, AList.entries_insert]
      exact List.cons_ne_nil _ _
    · rw [AList.lookup_insert_ne hvo] at hlookup
      exact h.nonempty vo hosts hlookup
  key_eq := by
    intro vo host g hfind
    rw [find?_put] at hfind
    split_ifs at hfind with hkey
    · exact Option.some.inj hfind ▸ hkey
    · exact h.key_eq vo host g hfind

theorem isFiled_empty : (∅ : LscTable).IsFiled where
  nonempty _ _ hlookup := by cases hlookup
  key_eq _ _ _ hfind := by cases hfind

theorem IsFiled.foldl_put {t : LscTable} (h : t.IsFiled) (files : List LscFile) :
    (files.foldl LscTable.put t).IsFiled := by
  induction files generalizing t with
  | nil => exact h
  | cons f files ih => exact ih (h.put f)

theorem isFiled_ofFiles (files : List LscFile) : (ofFiles files).IsFiled :=
  isFiled_empty.foldl_put files

/-- A table and an index that hold the same do so when the same files are put into both. -/
theorem find?_foldl_put {t : LscTable} {index : LscIndex}
    (h : ∀ vo host, t.find? vo host = index.find? vo host) (files : List LscFile)
    (vo host : String) :
    (files.foldl put t).find? vo host = (files.foldl LscIndex.insert index).find? vo host := by
  induction files generalizing t index with
  | nil => exact h vo host
  | cons f files ih =>
    refine ih fun vo host => ?_
    rw [find?_put, LscIndex.find?_insert, h]

/-- The table holds what the index holds that is filled with the same files. -/
theorem find?_ofFiles (files : List LscFile) (vo host : String) :
    (ofFiles files).find? vo host = (files.foldl LscIndex.insert .empty).find? vo host :=
  find?_foldl_put (fun _ _ => rfl) files vo host

/-! #### Listing a table -/

section Listing

variable {t : LscTable}

theorem find?_eq_some_iff {vo host : String} {f : LscFile} : t.find? vo host = some f ↔
    ∃ hosts, ⟨vo, hosts⟩ ∈ t.entries ∧ ⟨host, f⟩ ∈ hosts.entries := by
  simp only [find?, Option.bind_eq_some_iff, ← AList.mem_lookup_iff, Option.mem_def]

theorem mem_filesOf {hosts : AList fun _ : String => LscFile} {f : LscFile} :
    f ∈ filesOf hosts ↔ ∃ host, ⟨host, f⟩ ∈ hosts.entries := by
  rw [filesOf, List.mem_mergeSort, List.mem_map]
  constructor
  · rintro ⟨⟨host, f⟩, hentry, rfl⟩
    exact ⟨host, hentry⟩
  · rintro ⟨host, hentry⟩
    exact ⟨_, hentry, rfl⟩

theorem mem_toList {vo : String} {files : List LscFile} :
    (vo, files) ∈ t.toList ↔ ∃ hosts, ⟨vo, hosts⟩ ∈ t.entries ∧ filesOf hosts = files := by
  rw [toList, List.mem_mergeSort, List.mem_map]
  constructor
  · rintro ⟨⟨vo', hosts⟩, hentry, heq⟩
    cases heq
    exact ⟨hosts, hentry, rfl⟩
  · rintro ⟨hosts, hentry, rfl⟩
    exact ⟨_, hentry, rfl⟩

/-- What is listed for an organisation is what is found there, whatever the host. -/
theorem exists_mem_toList_iff {vo : String} {f : LscFile} :
    (∃ files, (vo, files) ∈ t.toList ∧ f ∈ files) ↔ ∃ host, t.find? vo host = some f := by
  simp only [mem_toList, find?_eq_some_iff]
  constructor
  · rintro ⟨_, ⟨hosts, hhosts, rfl⟩, hf⟩
    obtain ⟨host, hf⟩ := mem_filesOf.1 hf
    exact ⟨host, hosts, hhosts, hf⟩
  · rintro ⟨host, hosts, hhosts, hf⟩
    exact ⟨_, ⟨hosts, hhosts, rfl⟩, mem_filesOf.2 ⟨host, hf⟩⟩

theorem IsFiled.isListing (h : t.IsFiled) : IsListing t.find? t.toList where
  organisations := by
    refine pairwise_lt_mergeSort (List.pairwise_map.2 ?_)
    exact List.nodupKeys_iff_pairwise.1 t.nodupKeys
  nonempty := by
    rintro ⟨vo, files⟩ hentry
    obtain ⟨hosts, hhosts, rfl⟩ := mem_toList.1 hentry
    have hne := h.nonempty vo hosts (AList.mem_lookup_iff.2 hhosts)
    obtain ⟨⟨host, f⟩, hf⟩ := List.exists_mem_of_ne_nil _ hne
    exact List.ne_nil_of_mem (mem_filesOf.2 ⟨host, hf⟩)
  hosts := by
    rintro ⟨vo, files⟩ hentry
    obtain ⟨hosts, hhosts, rfl⟩ := mem_toList.1 hentry
    have hhost : ∀ entry ∈ hosts.entries, entry.2.host = entry.1 := fun entry hf =>
      congrArg Prod.snd (h.key_eq vo entry.1 entry.2 (find?_eq_some_iff.2 ⟨hosts, hhosts, hf⟩))
    refine pairwise_lt_mergeSort (List.pairwise_map.2 ?_)
    refine (List.nodupKeys_iff_pairwise.1 hosts.nodupKeys).imp_of_mem fun hf hg hne heq => hne ?_
    rw [← hhost _ hf, heq, hhost _ hg]
  mem_iff := by
    intro vo f
    rw [exists_mem_toList_iff]
    constructor
    · rintro ⟨host, hfind⟩
      obtain ⟨hvo, hhost⟩ := LscFile.key_eq_mk_iff.1 (h.key_eq vo host f hfind)
      exact ⟨hvo, by rwa [hvo, hhost]⟩
    · rintro ⟨rfl, hfind⟩
      exact ⟨f.host, hfind⟩

theorem count_eq (t : LscTable) : t.count = (t.toList.map fun entry => entry.2.length).sum := by
  have hperm : (t.toList.map fun entry => entry.2.length).Perm
      ((t.entries.map fun entry => (entry.1, filesOf entry.2)).map fun entry => entry.2.length) :=
    (List.mergeSort_perm _ _).map _
  rw [hperm.sum_nat, List.map_map, count]
  congr 2
  funext entry
  simp [filesOf]

end Listing

end LscTable

namespace TrustSnapshot

/-! ### Snapshots -/

/-- The LSC file that an item holds. -/
def Item.lscFile? : Item → Option LscFile
  | .lsc path vo host contents => lscIn? path vo host contents
  | _ => none

theorem lsc_add (s : TrustSnapshot) (item : Item) :
    (s.add item).lsc = item.lscFile?.elim s.lsc s.lsc.insert := by
  cases item with
  | unusable path => rfl
  | certificates path contents =>
    rw [add]
    cases certificatesIn? contents <;> rfl
  | lsc path vo host contents =>
    rw [add, Item.lscFile?]
    cases lscIn? path vo host contents <;> rfl

theorem lsc_foldl_add (s : TrustSnapshot) (items : List Item) :
    (items.foldl add s).lsc = (items.filterMap Item.lscFile?).foldl LscIndex.insert s.lsc := by
  induction items generalizing s with
  | nil => rfl
  | cons item items ih =>
    rw [List.foldl_cons, ih, lsc_add, List.filterMap_cons]
    cases item.lscFile? <;> rfl

theorem lsc_ofItems (items : List Item) :
    (ofItems items).lsc = (items.filterMap Item.lscFile?).foldl LscIndex.insert .empty :=
  lsc_foldl_add empty items

variable {missing : MissingDirectory} {tree : FileTree} {directories : List String}
  {snapshot : TrustSnapshot}

/-- What is loaded is made of the items of the directories. -/
theorem exists_items_of_load (h : load missing tree directories = .ok snapshot) :
    ∃ items, directories.mapM (directoryItems missing tree) = .ok items ∧
      snapshot = ofItems items.flatten := by
  rw [load] at h
  split at h
  · cases h
  · obtain ⟨items, hitems, h⟩ := bind_eq_ok_iff.1 h
    dsimp only at h
    split at h
    · cases h
    · cases h
      exact ⟨items, hitems, rfl⟩

/-- The index of LSC files is coherent in every snapshot that is loaded.

* A file that is found for an organisation and a host is about them, and it is listed for the
  organisation. No other file that is listed is about the same.
* A file that is listed for an organisation is about it and is found. The organisations are in order,
  each of them once and with a file at least, and so are the hosts of each organisation.
* The files that are listed are counted.
* A table in two levels that the files are put into, in the order in which loading comes by them, finds
  the same, lists the same and counts the same. -/
theorem load_index (h : load missing tree directories = .ok snapshot) :
    (∀ vo host f, snapshot.lsc.find? vo host = some f →
      f.vo = vo ∧ f.host = host ∧
        (∃ files, (vo, files) ∈ snapshot.lsc.toList ∧ f ∈ files) ∧
        (snapshot.lsc.toList.flatMap Prod.snd).countP (·.sameKey f) = 1) ∧
    (∀ vo files, (vo, files) ∈ snapshot.lsc.toList →
      files ≠ [] ∧ (files.Pairwise fun f g => f.host < g.host) ∧
        ∀ f ∈ files, f.vo = vo ∧ snapshot.lsc.find? f.vo f.host = some f) ∧
    (snapshot.lsc.toList.Pairwise fun entry next => entry.1 < next.1) ∧
    snapshot.lsc.count = (snapshot.lsc.toList.map fun entry => entry.2.length).sum ∧
    ∃ items, directories.mapM (directoryItems missing tree) = .ok items ∧
      let table := LscTable.ofFiles (items.flatten.filterMap Item.lscFile?)
      (∀ vo host, table.find? vo host = snapshot.lsc.find? vo host) ∧
        table.toList = snapshot.lsc.toList ∧ table.count = snapshot.lsc.count := by
  have hlisting := snapshot.lsc.isListing
  refine ⟨fun vo host f hfind => ?_, fun vo files hentry => ?_, hlisting.organisations,
    snapshot.lsc.count_eq, ?_⟩
  · obtain ⟨rfl, rfl⟩ := LscFile.key_eq_mk_iff.1 (LscIndex.find?_eq_some_iff.1 hfind).2
    exact ⟨rfl, rfl, hlisting.mem_iff.2 ⟨rfl, hfind⟩, hlisting.countP_sameKey hfind⟩
  · exact ⟨hlisting.nonempty _ hentry, hlisting.hosts _ hentry, fun f hf =>
      hlisting.mem_iff.1 ⟨files, hentry, hf⟩⟩
  · obtain ⟨items, hitems, rfl⟩ := exists_items_of_load h
    have hfind : (LscTable.ofFiles (items.flatten.filterMap Item.lscFile?)).find? =
        (ofItems items.flatten).lsc.find? := by
      funext vo host
      rw [LscTable.find?_ofFiles, lsc_ofItems]
    have htable := (LscTable.isFiled_ofFiles (items.flatten.filterMap Item.lscFile?)).isListing
    rw [hfind] at htable
    have hlist := htable.unique hlisting
    refine ⟨items, hitems, fun vo host => congrFun (congrFun hfind vo) host, hlist, ?_⟩
    rw [LscTable.count_eq, hlist, LscIndex.count_eq]

end TrustSnapshot

namespace Sample

/-- Three trust directories with LSC files. Those in the first two are about the same organisation
and host. -/
def overlappingTree : FileTree :=
  ((FileTree.empty.write "first/vo.example/voms.example.org.lsc"
    (Bytes.ofText "/C=CH/CN=old.example.org\n")).write "second/vo.example/voms.example.org.lsc"
    (Bytes.ofText "/C=CH/CN=voms.example.org\n")).write "third/vo.example/a.example.org.lsc"
    (Bytes.ofText "/C=CH/CN=a.example.org\n")

end Sample

/-- The file in the second directory replaces the one in the first. -/
theorem TrustSnapshot.load_index_sample :
    ∃ snapshot f, load .fail Sample.overlappingTree ["first", "second", "third"] = .ok snapshot ∧
      snapshot.lsc.find? "vo.example" "voms.example.org" = some f ∧
      f.filename = some "second/vo.example/voms.example.org.lsc" ∧
      f.vo = "vo.example" ∧ f.host = "voms.example.org" ∧
      (snapshot.lsc.toList.flatMap Prod.snd).countP (·.sameKey f) = 1 ∧
      snapshot.lsc.count = (snapshot.lsc.toList.map fun entry => entry.2.length).sum ∧
      snapshot.lsc.count = 2 := by
  have hload : ((load .fail Sample.overlappingTree ["first", "second", "third"]).toOption.map
      fun snapshot => ((snapshot.lsc.find? "vo.example" "voms.example.org").map (·.filename),
        snapshot.lsc.count)) = some (some (some "second/vo.example/voms.example.org.lsc"), 2) := by
    decide +kernel
  cases hs : load .fail Sample.overlappingTree ["first", "second", "third"] with
  | error error => simp [hs, Except.toOption] at hload
  | ok snapshot =>
    simp only [hs, Except.toOption, Option.map_some, Option.some.injEq, Prod.mk.injEq,
      Option.map_eq_some_iff] at hload
    obtain ⟨⟨f, hfind, hfilename⟩, hcount⟩ := hload
    obtain ⟨hfound, -, -, hsum, -⟩ := load_index hs
    obtain ⟨hvo, hhost, -, honce⟩ := hfound _ _ f hfind
    exact ⟨snapshot, f, rfl, hfind, hfilename, hvo, hhost, honce, hsum, hcount⟩

end GridAuthz
