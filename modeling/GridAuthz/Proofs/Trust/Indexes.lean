import Mathlib.Algebra.GroupWithZero.Nat
import GridAuthz.Lsc
import GridAuthz.Proofs.Sorting

/-!
# Indexes of LSC files

What an index finds and what it lists are two views of the same files (`LscIndex.isListing`). What is
found determines the listing (`IsListing.unique`), in which every file that is found occurs once
(`IsListing.countP_sameKey`). A file that is added takes the place of the one about the same
organisation and host (`LscIndex.find?_insert`).
-/

namespace GridAuthz

theorem LscFile.key_eq_mk_iff {f : LscFile} {vo host : String} :
    f.key = (vo, host) ↔ f.vo = vo ∧ f.host = host := Prod.ext_iff

/-! ### Listings -/

/-- The listing of the files that a look-up by organisation and host finds. -/
structure IsListing (find? : String → String → Option LscFile)
    (listing : List (String × List LscFile)) : Prop where
  /-- The organisations are in order, each of them once. -/
  organisations : listing.Pairwise fun entry next => entry.1 < next.1
  /-- Every organisation has a file. -/
  nonempty : ∀ entry ∈ listing, entry.2 ≠ []
  /-- The files of an organisation are in the order of their hosts, each of which has one. -/
  hosts : ∀ entry ∈ listing, entry.2.Pairwise fun f g => f.host < g.host
  /-- The files listed for an organisation are about it, and they are those that are found. -/
  mem_iff : ∀ {vo : String} {f : LscFile},
    (∃ files, (vo, files) ∈ listing ∧ f ∈ files) ↔ f.vo = vo ∧ find? f.vo f.host = some f

namespace IsListing

variable {find? : String → String → Option LscFile}
  {listing listing' : List (String × List LscFile)}

/-- No two files that are listed are about the same. -/
theorem pairwise_key (h : IsListing find? listing) :
    (listing.flatMap Prod.snd).Pairwise fun f g => f.key ≠ g.key := by
  rw [List.pairwise_flatMap]
  constructor
  · intro entry hentry
    exact (h.hosts entry hentry).imp fun hlt hkey => hlt.ne (LscFile.key_eq_mk_iff.1 hkey).2
  · refine h.organisations.imp_of_mem fun {entry next} hentry hnext hlt f hf g hg hkey => ?_
    have hvo := (h.mem_iff.1 ⟨entry.2, hentry, hf⟩).1
    have hvo' := (h.mem_iff.1 ⟨next.2, hnext, hg⟩).1
    exact hlt.ne (hvo.symm.trans ((LscFile.key_eq_mk_iff.1 hkey).1.trans hvo'))

/-- One organisation has one entry. -/
theorem files_eq (h : IsListing find? listing) {vo : String} {files files' : List LscFile}
    (hfiles : (vo, files) ∈ listing) (hfiles' : (vo, files') ∈ listing) : files = files' := by
  have hnodup : (listing.map Prod.fst).Nodup :=
    List.pairwise_map.2 (h.organisations.imp fun hlt => hlt.ne)
  exact congrArg Prod.snd (List.inj_on_of_nodup_map hnodup hfiles hfiles' rfl)

theorem mem_flatMap (h : IsListing find? listing) {f : LscFile} :
    f ∈ listing.flatMap Prod.snd ↔ find? f.vo f.host = some f := by
  have hiff : (∃ files, (f.vo, files) ∈ listing ∧ f ∈ files) ↔ find? f.vo f.host = some f :=
    h.mem_iff.trans (and_iff_right rfl)
  rw [← hiff, List.mem_flatMap]
  constructor
  · rintro ⟨⟨vo, files⟩, hentry, hf⟩
    obtain ⟨rfl, -⟩ := h.mem_iff.1 ⟨files, hentry, hf⟩
    exact ⟨files, hentry, hf⟩
  · rintro ⟨files, hentry, hf⟩
    exact ⟨(f.vo, files), hentry, hf⟩

/-- Of the files that are listed, one is about the organisation and host of a file that is found. -/
theorem countP_sameKey (h : IsListing find? listing) {f : LscFile}
    (hf : find? f.vo f.host = some f) :
    (listing.flatMap Prod.snd).countP (·.sameKey f) = 1 := by
  have hnodup : ((listing.flatMap Prod.snd).map LscFile.key).Nodup :=
    List.pairwise_map.2 h.pairwise_key
  have hcount := List.count_eq_one_of_mem hnodup (List.mem_map_of_mem (h.mem_flatMap.2 hf))
  rwa [List.count, List.countP_map] at hcount

/-- There is one listing only. -/
theorem unique (h : IsListing find? listing) (h' : IsListing find? listing') :
    listing = listing' := by
  have hsubset : ∀ {l l' : List (String × List LscFile)}, IsListing find? l → IsListing find? l' →
      ∀ entry ∈ l, entry ∈ l' := by
    rintro l l' h h' ⟨vo, files⟩ hentry
    obtain ⟨f, hf⟩ := List.exists_mem_of_ne_nil files (h.nonempty _ hentry)
    obtain ⟨files', hentry', -⟩ := h'.mem_iff.2 (h.mem_iff.1 ⟨files, hentry, hf⟩)
    have heq : files = files' := by
      refine eq_of_pairwise_lt (h.hosts _ hentry) (h'.hosts _ hentry') fun g => ?_
      constructor
      · intro hg
        obtain ⟨files'', hentry'', hg⟩ := h'.mem_iff.2 (h.mem_iff.1 ⟨files, hentry, hg⟩)
        rwa [h'.files_eq hentry' hentry'']
      · intro hg
        obtain ⟨files'', hentry'', hg⟩ := h.mem_iff.2 (h'.mem_iff.1 ⟨files', hentry', hg⟩)
        rwa [h.files_eq hentry hentry'']
    rwa [heq]
  exact eq_of_pairwise_lt h.organisations h'.organisations fun entry =>
    ⟨hsubset h h' entry, hsubset h' h entry⟩

end IsListing

namespace LscIndex

variable {index : LscIndex} {vo host : String} {f : LscFile}

theorem eq_of_key_eq {g : LscFile} (hf : f ∈ index.files) (hg : g ∈ index.files)
    (hkey : f.key = g.key) : f = g :=
  List.inj_on_of_nodup_map (List.pairwise_map.2 index.distinct) hf hg hkey

/-- What is found is what there is about the organisation and the host. -/
theorem find?_eq_some_iff :
    index.find? vo host = some f ↔ f ∈ index.files ∧ f.key = (vo, host) := by
  constructor
  · intro h
    exact ⟨List.mem_of_find?_eq_some h, by simpa using List.find?_some h⟩
  · rintro ⟨hf, hkey⟩
    obtain ⟨g, hg⟩ : ∃ g, index.find? vo host = some g := by
      rw [← Option.isSome_iff_exists, find?, List.find?_isSome]
      exact ⟨f, hf, by simpa using hkey⟩
    have hgkey : g.key = (vo, host) := by simpa using List.find?_some hg
    rw [hg, eq_of_key_eq (List.mem_of_find?_eq_some hg) hf (hgkey.trans hkey.symm)]

theorem mem_organisations : vo ∈ index.organisations ↔ ∃ f ∈ index.files, f.vo = vo := by
  rw [organisations, List.mem_eraseDups, List.mem_mergeSort, List.mem_map]

theorem mem_filesOf : f ∈ index.filesOf vo ↔ f ∈ index.files ∧ f.vo = vo := by
  rw [filesOf, List.mem_mergeSort, List.mem_filter, decide_eq_true_eq]

/-- The files about one organisation are about different hosts. -/
theorem pairwise_filesOf (index : LscIndex) (vo : String) :
    (index.filesOf vo).Pairwise fun f g => f.host < g.host := by
  refine pairwise_lt_mergeSort ?_
  refine (index.distinct.filter _).imp_of_mem fun {f g} hf hg hkey hhost => hkey ?_
  simp only [List.mem_filter, decide_eq_true_eq] at hf hg
  rw [LscFile.key, LscFile.key, hf.2, hg.2, hhost]

theorem isListing (index : LscIndex) : IsListing index.find? index.toList where
  organisations := List.pairwise_map.2 (pairwise_lt_eraseDups (pairwise_le_mergeSort _))
  nonempty := by
    rintro ⟨vo, files⟩ hentry
    obtain ⟨_, hvo, heq⟩ := List.mem_map.1 hentry
    cases heq
    obtain ⟨f, hf, hfvo⟩ := mem_organisations.1 hvo
    exact List.ne_nil_of_mem (mem_filesOf.2 ⟨hf, hfvo⟩)
  hosts := by
    rintro ⟨vo, files⟩ hentry
    obtain ⟨_, -, heq⟩ := List.mem_map.1 hentry
    cases heq
    exact pairwise_filesOf index vo
  mem_iff := by
    intro vo f
    rw [find?_eq_some_iff]
    constructor
    · rintro ⟨files, hentry, hf⟩
      obtain ⟨_, -, heq⟩ := List.mem_map.1 hentry
      cases heq
      obtain ⟨hf, hvo⟩ := mem_filesOf.1 hf
      exact ⟨hvo, hf, rfl⟩
    · rintro ⟨rfl, hf, -⟩
      exact ⟨_, List.mem_map_of_mem (mem_organisations.2 ⟨f, hf, rfl⟩), mem_filesOf.2 ⟨hf, rfl⟩⟩

/-- The index counts the files that it lists. -/
theorem count_eq (index : LscIndex) :
    index.count = (index.toList.map fun entry => entry.2.length).sum := by
  have hperm : index.files.Perm (index.toList.flatMap Prod.snd) := by
    have hfiles : index.files.Nodup := index.distinct.imp fun hkey heq => hkey (congrArg _ heq)
    have hlisted : (index.toList.flatMap Prod.snd).Nodup :=
      index.isListing.pairwise_key.imp fun hkey heq => hkey (congrArg _ heq)
    refine (List.perm_ext_iff_of_nodup hfiles hlisted).2 fun f => ?_
    rw [index.isListing.mem_flatMap, find?_eq_some_iff]
    exact (and_iff_left rfl).symm
  rw [count, hperm.length_eq, List.length_flatMap]

/-! ### Adding files -/

theorem find?_insert (index : LscIndex) (f : LscFile) (vo host : String) :
    (index.insert f).find? vo host =
      if f.key = (vo, host) then some f else index.find? vo host := by
  rw [find?, insert, List.find?_cons, find?]
  split
  case h_1 hkey => rw [if_pos (by simpa using hkey)]
  case h_2 hkey =>
    have hne : f.key ≠ (vo, host) := by simpa using hkey
    rw [if_neg hne, List.find?_filter]
    congr 1
    funext g
    by_cases hg : g.key = (vo, host) <;> simp [hg, hne]

/-- Of several files about the same, the last one counts. -/
theorem find?_foldl_insert (index : LscIndex) (files : List LscFile) (vo host : String) :
    (files.foldl insert index).find? vo host =
      ((files.filter (·.key = (vo, host))).getLast?).or (index.find? vo host) := by
  induction files generalizing index with
  | nil => simp
  | cons f files ih =>
    rw [List.foldl_cons, ih, find?_insert, List.filter_cons]
    split <;> simp_all [List.getLast?_cons]

end LscIndex

end GridAuthz
