import GridAuthz.Proofs.Trust.Indexes
import GridAuthz.Proofs.Trust.Walk

/-!
# What trust snapshots hold

A file in the trust directories is used as a whole or not at all. One thing that the walk comes by adds
its certificates behind those that there are, its LSC file in place of one about the same, and its path
to what is skipped (`TrustSnapshot.addFound_eq`), and so does the whole walk
(`TrustSnapshot.foldl_addFound_eq`). From this follows what a snapshot holds that has been loaded
(`TrustSnapshot.load_contents`).
-/

namespace GridAuthz

namespace TrustSnapshot

/-! ### Certificates -/

/-- Two certificates have the same encoding. -/
def sameEncoding (c d : Certificate) : Bool := c.toDer == d.toDer

/-- Of certificates with the same encoding, the first one is kept. -/
theorem foldl_addCertificate_eq (certificates : List Certificate) :
    certificates.foldl addCertificate [] = certificates.eraseDupsBy sameEncoding := by
  have hloop : ∀ kept, certificates.foldl addCertificate kept.reverse =
      List.eraseDupsBy.loop sameEncoding certificates kept := by
    induction certificates with
    | nil => simp [List.eraseDupsBy.loop]
    | cons c certificates ih =>
      intro kept
      have hany : (kept.reverse.any fun d => d.toDer == c.toDer) = kept.any (sameEncoding c) := by
        rw [List.any_reverse]
        exact congrArg kept.any (funext fun d => by rw [sameEncoding, BEq.comm])
      rw [List.foldl_cons, addCertificate, hany]
      cases hseen : kept.any (sameEncoding c) with
      | true => simpa [List.eraseDupsBy.loop, hseen] using ih kept
      | false => simpa [List.eraseDupsBy.loop, hseen] using ih (c :: kept)
  exact hloop []

theorem subset_addCertificate (kept : List Certificate) (c : Certificate) :
    kept ⊆ addCertificate kept c := by
  rw [addCertificate]
  split
  case isTrue => exact List.Subset.refl kept
  case isFalse => exact List.subset_append_left kept [c]

theorem exists_mem_addCertificate (kept : List Certificate) (c : Certificate) :
    ∃ d ∈ addCertificate kept c, d.toDer = c.toDer := by
  rw [addCertificate]
  split
  case isTrue hany =>
    obtain ⟨d, hd, heq⟩ := List.any_eq_true.1 hany
    exact ⟨d, hd, by simpa using heq⟩
  case isFalse => exact ⟨c, by simp, rfl⟩

/-- Every encoding occurs among the certificates that are kept. -/
theorem exists_mem_foldl_addCertificate (certificates kept : List Certificate) :
    ∀ c ∈ kept ++ certificates,
      ∃ d ∈ certificates.foldl addCertificate kept, d.toDer = c.toDer := by
  induction certificates generalizing kept with
  | nil => exact fun c hc => ⟨c, by simpa using hc, rfl⟩
  | cons e certificates ih =>
    intro c hc
    rcases List.mem_append.1 hc with hkept | hc
    · exact ih _ c (List.mem_append_left _ (subset_addCertificate kept e hkept))
    · rcases List.mem_cons.1 hc with rfl | hrest
      · obtain ⟨d, hd, heq⟩ := exists_mem_addCertificate kept c
        obtain ⟨d', hd', heq'⟩ := ih _ d (List.mem_append_left _ hd)
        exact ⟨d', hd', heq'.trans heq⟩
      · exact ih _ c (List.mem_append_right _ hrest)

theorem pairwise_addCertificate {kept : List Certificate}
    (h : kept.Pairwise fun c d => c.toDer ≠ d.toDer) (c : Certificate) :
    (addCertificate kept c).Pairwise fun c d => c.toDer ≠ d.toDer := by
  rw [addCertificate]
  split
  case isTrue => exact h
  case isFalse hany =>
    refine List.pairwise_append.2 ⟨h, List.pairwise_singleton _ c, fun d hd e he => ?_⟩
    rw [List.mem_singleton.1 he]
    exact fun heq => hany (List.any_eq_true.2 ⟨d, hd, by simpa using heq⟩)

/-- No two certificates that are kept have the same encoding. -/
theorem pairwise_foldl_addCertificate {kept : List Certificate}
    (h : kept.Pairwise fun c d => c.toDer ≠ d.toDer) (certificates : List Certificate) :
    (certificates.foldl addCertificate kept).Pairwise fun c d => c.toDer ≠ d.toDer := by
  induction certificates generalizing kept with
  | nil => exact h
  | cons c certificates ih => exact ih (pairwise_addCertificate h c)

/-! ### What files hold -/

/-- The certificates of contents that are PEM text as a whole. -/
def pemCertificates (contents : Bytes) : List Certificate :=
  match (Bytes.toText? contents).map Certificate.readPem with
  | some (.ok certificates) => certificates
  | _ => []

/-- The chains that contents describe if they are the text of an LSC file as a whole. -/
def lscDescriptions? (contents : Bytes) : Option (List ChainDescription) :=
  (Bytes.toText? contents).bind fun text => (LscFile.readDescriptions text).toOption

/-- The certificates of a file of certificates. -/
def Found.certificates : Found → List Certificate
  | missing _ => []
  | file _ _ name contents => if name.EndsIn ".pem" then pemCertificates contents else []

/-- The LSC file for an organisation and a host. -/
def Found.lsc? (vo host : String) : Found → Option LscFile
  | missing _ => none
  | file path organisation name contents =>
    if organisation = some vo ∧ name.text = host ++ ".lsc" then
      (lscDescriptions? contents).map fun descriptions => ⟨vo, host, some path, descriptions⟩
    else none

/-- The path of what cannot be used: a directory that does not exist, a file of certificates without
any, or an LSC file of an organisation that cannot be read. -/
def Found.skipped? : Found → Option String
  | missing directory => some directory
  | file path organisation name contents =>
    if name.EndsIn ".pem" ∧ pemCertificates contents = [] ∨
        organisation.isSome ∧ name.EndsIn ".lsc" ∧ lscDescriptions? contents = none then
      some path
    else none

theorem certificatesIn?_eq (contents : Bytes) : certificatesIn? contents =
    if pemCertificates contents = [] then none else some (pemCertificates contents) := by
  rw [certificatesIn?, pemCertificates]
  rcases (Bytes.toText? contents).map Certificate.readPem with _ | _ | ⟨- | ⟨c, cs⟩⟩ <;> rfl

theorem lscIn?_eq (path vo host : String) (contents : Bytes) : lscIn? path vo host contents =
    (lscDescriptions? contents).map fun descriptions => ⟨vo, host, some path, descriptions⟩ := by
  rw [lscIn?, lscDescriptions?]
  cases Bytes.toText? contents with
  | none => rfl
  | some text =>
    rw [Option.bind_some, Option.bind_some, LscFile.read]
    cases LscFile.readDescriptions text <;> rfl

/-! ### What one thing adds -/

/-- The LSC file, by its name. -/
def Found.lscFile? : Found → Option LscFile
  | missing _ => none
  | file path organisation name contents =>
    if name.EndsIn ".lsc" then
      organisation.bind fun vo => lscIn? path vo (FileTree.stem name.text) contents
    else none

/-- Adds what the walk comes by. -/
def addFound (s : TrustSnapshot) (found : Found) : TrustSnapshot := found.item?.elim s s.add

theorem ofItems_filterMap_item? (founds : List Found) :
    ofItems (founds.filterMap Found.item?) = founds.foldl addFound empty := by
  rw [ofItems, List.foldl_filterMap]
  congr 1
  funext s found
  rw [addFound]
  cases found.item? <;> rfl

section Name

variable {name : FileName} (hvisible : FileTree.isHidden name.text = false)

include hvisible

theorem endsIn_pem_iff : name.EndsIn ".pem" ↔
    FileTree.extension? name.text = some certificateExtension := by
  rw [FileTree.extension?_eq_some_iff_endsIn hvisible (by decide)]
  rfl

theorem endsIn_lsc_iff :
    name.EndsIn ".lsc" ↔ FileTree.extension? name.text = some lscExtension := by
  rw [FileTree.extension?_eq_some_iff_endsIn hvisible (by decide)]
  rfl

end Name

theorem add_certificates (s : TrustSnapshot) (path : String) (contents : Bytes) :
    s.add (.certificates path contents) =
      { certificates := (pemCertificates contents).foldl addCertificate s.certificates
        lsc := s.lsc
        skipped := s.skipped ++ if pemCertificates contents = [] then [path] else [] } := by
  rw [add, certificatesIn?_eq]
  by_cases hnone : pemCertificates contents = [] <;> simp [hnone, skip]

theorem add_lsc (s : TrustSnapshot) (path vo host : String) (contents : Bytes) :
    s.add (.lsc path vo host contents) =
      { certificates := s.certificates
        lsc := (lscIn? path vo host contents).toList.foldl LscIndex.insert s.lsc
        skipped := s.skipped ++ if lscDescriptions? contents = none then [path] else [] } := by
  rw [add, lscIn?_eq]
  cases lscDescriptions? contents <;> simp [skip]

/-- What the walk comes by adds its certificates, its LSC file, and its path if it is skipped. -/
theorem addFound_eq {found : Found} (hvisible : found.IsVisible) (s : TrustSnapshot) :
    s.addFound found =
      { certificates := found.certificates.foldl addCertificate s.certificates
        lsc := found.lscFile?.toList.foldl LscIndex.insert s.lsc
        skipped := s.skipped ++ found.skipped?.toList } := by
  cases found with
  | missing directory => rfl
  | file path organisation name contents =>
    have hpem := endsIn_pem_iff hvisible
    have hlsc := endsIn_lsc_iff hvisible
    have hdistinct : ¬(name.EndsIn ".pem" ∧ name.EndsIn ".lsc") := by
      rw [hpem, hlsc]
      rintro ⟨hext, hext'⟩
      rw [hext] at hext'
      exact absurd hext' (by decide)
    simp only [addFound, Found.item?, Found.certificates, Found.lscFile?, Found.skipped?, ← hpem,
      ← hlsc]
    by_cases hends : name.EndsIn ".pem"
    · have hends' : ¬name.EndsIn ".lsc" := fun h => hdistinct ⟨hends, h⟩
      by_cases hnone : pemCertificates contents = [] <;>
        simp [hends, hends', hnone, add_certificates]
    · by_cases hends' : name.EndsIn ".lsc"
      · cases organisation with
        | none => simp [hends, hends']
        | some vo =>
          by_cases hnone : lscDescriptions? contents = none <;>
            simp [hends, hends', hnone, add_lsc]
      · simp [hends, hends']

/-- Adding a row of things adds what each of them adds. -/
theorem foldl_addFound_eq {founds : List Found} (hvisible : ∀ found ∈ founds, found.IsVisible)
    (s : TrustSnapshot) : founds.foldl addFound s =
      { certificates := (founds.flatMap Found.certificates).foldl addCertificate s.certificates
        lsc := (founds.filterMap Found.lscFile?).foldl LscIndex.insert s.lsc
        skipped := s.skipped ++ founds.filterMap Found.skipped? } := by
  induction founds generalizing s with
  | nil => simp
  | cons found founds ih =>
    rw [List.forall_mem_cons] at hvisible
    rw [List.foldl_cons, addFound_eq hvisible.1, ih hvisible.2, List.filterMap_cons,
      List.filterMap_cons, List.flatMap_cons, List.foldl_append, List.append_assoc]
    cases found.lscFile? <;> cases found.skipped? <;> rfl

theorem filter_lscFile? {found : Found} (hvisible : found.IsVisible) (vo host : String) :
    found.lscFile?.filter (·.key = (vo, host)) = found.lsc? vo host := by
  cases found with
  | missing directory => rfl
  | file path organisation name contents =>
    rw [Found.lscFile?, Found.lsc?]
    by_cases hends : name.EndsIn ".lsc"
    · obtain ⟨hdot, base, hbase, hname⟩ :=
        FileTree.extension?_eq_some_iff.1 ((endsIn_lsc_iff hvisible).1 hends)
      have hstem : FileTree.stem name.text = base := by rw [hname, FileTree.stem_append hbase hdot]
      have hhost : name.text = host ++ ".lsc" ↔ base = host := by
        rw [hname, String.append_assoc]
        exact String.append_left_inj _
      simp only [hends, if_true, hstem, hhost]
      cases organisation with
      | none => simp
      | some vo' =>
        rw [Option.bind_some, lscIn?_eq]
        cases lscDescriptions? contents with
        | none => simp
        | some descriptions =>
          by_cases hkey : vo' = vo ∧ base = host
          · obtain ⟨rfl, rfl⟩ := hkey
            simp [LscFile.key]
          · simpa [LscFile.key, hkey] using not_and.1 hkey
    · have hother : name.text ≠ host ++ ".lsc" := fun h => hends ⟨host.toList, by simp [h]⟩
      simp [hends, hother]

/-! ### Main statements -/

theorem Found.components_of_skipped? {tree : FileTree} {path : List FileName} {text : String}
    (found : Found) (hat : found.IsAt tree path) (h : found.skipped? = some text) :
    tree.components text = path := by
  cases found with
  | missing directory => cases hat
  | file text' organisation name contents =>
    obtain ⟨-, htext⟩ := Option.ite_none_right_eq_some.1 h
    exact Option.some.inj htext ▸ hat

/-- A file cannot be used: it is no file of certificates with at least one, and no LSC file. -/
def IsUnusable (name : FileName) (contents : Bytes) : Prop :=
  (name.EndsIn ".pem" → pemCertificates contents = []) ∧
    (name.EndsIn ".lsc" → lscDescriptions? contents = none)

theorem IsUnusable.certificates_eq {name : FileName} {contents : Bytes}
    (h : IsUnusable name contents) (path : String) (organisation : Option String) :
    (Found.file path organisation name contents).certificates = [] := by
  rw [Found.certificates]
  split
  case isTrue hends => exact h.1 hends
  case isFalse => rfl

theorem IsUnusable.lscFile?_eq {name : FileName} {contents : Bytes}
    (h : IsUnusable name contents) (path : String) (organisation : Option String) :
    (Found.file path organisation name contents).lscFile? = none := by
  rw [Found.lscFile?]
  split
  case isTrue hends => cases organisation <;> simp [lscIn?_eq, h.2 hends]
  case isFalse => rfl

/-- What the walk comes by at the path of a new file that cannot be used adds nothing. -/
theorem IsUnusable.adds_nothing {tree : FileTree} {directories : List String}
    {parent : List FileName} {name : FileName} {contents : Bytes} (h : IsUnusable name contents)
    {found : Found}
    (hfound : found ∈ walk (tree.put (parent ++ [name]) (.file contents)) directories)
    (hat : found.IsAt tree (parent ++ [name])) :
    found.certificates = [] ∧ found.lscFile? = none := by
  cases found with
  | missing directory => cases hat
  | file path organisation name' contents' =>
    obtain ⟨directory, rfl, -, hfind⟩ := exists_entry_of_mem_walk hfound
    obtain ⟨-, -, hnode⟩ := FileTree.find_eq_ok_iff.1 hfind
    have hcomponents : (tree.put (parent ++ [name]) (.file contents)).components
        (FileTree.join directory name'.text) = parent ++ [name] := hat
    rw [hcomponents, FileTree.node?_put (by simp), if_pos rfl] at hnode
    rw [Found.IsAt, FileTree.components_join] at hat
    cases hnode
    obtain rfl : name' = name := by simpa using List.append_inj_right' hat rfl
    exact ⟨h.certificates_eq _ _, h.lscFile?_eq _ _⟩

section Load

variable {missing : MissingDirectory} {tree : FileTree} {directories : List String}
  {snapshot : TrustSnapshot} (hfaults : tree.faults = [])

include hfaults

/-- What is made of what a walk comes by. -/
theorem ofItems_walk_eq : ofItems ((walk tree directories).filterMap Found.item?) =
    { certificates := ((walk tree directories).flatMap Found.certificates).foldl addCertificate []
      lsc := ((walk tree directories).filterMap Found.lscFile?).foldl LscIndex.insert .empty
      skipped := (walk tree directories).filterMap Found.skipped? } := by
  rw [ofItems_filterMap_item?, foldl_addFound_eq fun _ => isVisible_of_mem_walk hfaults]
  rfl

theorem find?_ofItems_walk (vo host : String) :
    (ofItems ((walk tree directories).filterMap Found.item?)).lsc.find? vo host =
      ((walk tree directories).filterMap (Found.lsc? vo host)).getLast? := by
  rw [ofItems_walk_eq hfaults, LscIndex.find?_foldl_insert, List.filter_filterMap,
    List.filterMap_congr fun found hfound =>
      filter_lscFile? (isVisible_of_mem_walk hfaults hfound) vo host]
  exact Option.or_none

section Put

variable {parent : List FileName} {name : FileName} {contents : Bytes}
  (hnone : tree.node? (parent ++ [name]) = none) (hunusable : IsUnusable name contents)

include hnone hunusable

/-- What is made of the walk past the new file differs in what is skipped only. -/
theorem ofItems_walk_put_eq :
    ofItems ((walk (tree.put (parent ++ [name]) (.file contents)) directories).filterMap
      Found.item?) =
    { ofItems ((walk tree directories).filterMap Found.item?) with
      skipped := (walk (tree.put (parent ++ [name]) (.file contents)) directories).filterMap
        Found.skipped? } := by
  have hput : (tree.put (parent ++ [name]) (.file contents)).faults = [] := hfaults
  rw [ofItems_walk_eq hput, ofItems_walk_eq hfaults,
    ← filter_walk_put hnone hfaults contents directories, flatMap_filter_eq,
    List.filterMap_filter]
  congr 2
  · refine List.flatMap_congr fun found hfound => ?_
    by_cases hat : found.IsAt tree (parent ++ [name])
    · simp [hat, (hunusable.adds_nothing hfound hat).1]
    · simp [hat]
  · refine List.filterMap_congr fun found hfound => ?_
    by_cases hat : found.IsAt tree (parent ++ [name])
    · simp [hat, (hunusable.adds_nothing hfound hat).2]
    · simp [hat]

/-- A new file that cannot be used makes no difference, but that it may be listed as skipped. -/
theorem load_put_of_isUnusable (h : load missing tree directories = .ok snapshot) :
    ∃ skipped, load missing (tree.put (parent ++ [name]) (.file contents)) directories =
        .ok { snapshot with skipped } ∧
      snapshot.skipped.Sublist skipped ∧
      ∀ path ∈ skipped, path ∈ snapshot.skipped ∨ tree.components path = parent ++ [name] := by
  obtain ⟨hdirectories, hexist, rfl, hnonempty⟩ := (load_eq_ok_iff hfaults).1 h
  have hput : (tree.put (parent ++ [name]) (.file contents)).faults = [] := hfaults
  have hfilter := filter_walk_put hnone hfaults contents directories
  refine ⟨_, (load_eq_ok_iff hput).2 ⟨hdirectories, fun directory hmem hfail => ?_,
    ofItems_walk_put_eq hfaults hnone hunusable, hnonempty⟩, ?_, fun path hpath => ?_⟩
  · rw [FileTree.isDirectory_put hnone]
    exact hexist directory hmem hfail
  · rw [ofItems_walk_eq hfaults, ← hfilter]
    exact List.filter_sublist.filterMap _
  · obtain ⟨found, hfound, hskipped⟩ := List.mem_filterMap.1 hpath
    by_cases hat : found.IsAt tree (parent ++ [name])
    · exact .inr (found.components_of_skipped? hat hskipped)
    · left
      rw [ofItems_walk_eq hfaults, ← hfilter]
      exact List.mem_filterMap.2 ⟨found, List.mem_filter.2 ⟨hfound, by simpa using hat⟩, hskipped⟩

end Put

/-- What is loaded from trust directories, of which nothing is unreadable, is exactly what a walk through
them comes by. The walk goes through the entries of a directory in the order of their names.

* Of the certificates of the files that can be used, the first one with each encoding is listed, in
  order, and every encoding is that of a certificate that is listed, so no file is used in part.
* The LSC file of an organisation and host is the last one by that name that can be read.
* Skipped is what cannot be used, in order.
* A new file that cannot be used makes no difference, but that it may be listed as skipped. -/
theorem load_contents (h : load missing tree directories = .ok snapshot) :
    (∀ directory, (tree.entries directory).Pairwise (fun a b => a.text < b.text) ∧
      ∀ name, name ∈ tree.entries directory ↔ tree.isDirectory directory = true ∧
        FileTree.isHidden name.text = false ∧
        (tree.node? (tree.components directory ++ [name])).isSome = true) ∧
    snapshot.certificates =
      ((walk tree directories).flatMap Found.certificates).eraseDupsBy sameEncoding ∧
    (snapshot.certificates.Pairwise fun c d => c.toDer ≠ d.toDer) ∧
    (∀ found ∈ walk tree directories, ∀ c ∈ found.certificates,
      ∃ d ∈ snapshot.certificates, d.toDer = c.toDer) ∧
    (∀ vo host, snapshot.lsc.find? vo host =
      ((walk tree directories).filterMap (Found.lsc? vo host)).getLast?) ∧
    snapshot.skipped = (walk tree directories).filterMap Found.skipped? ∧
    ∀ parent name contents, tree.node? (parent ++ [name]) = none → IsUnusable name contents →
      ∃ skipped, load missing (tree.put (parent ++ [name]) (.file contents)) directories =
          .ok { snapshot with skipped } ∧
        snapshot.skipped.Sublist skipped ∧
        ∀ path ∈ skipped, path ∈ snapshot.skipped ∨
          tree.components path = parent ++ [name] := by
  obtain ⟨-, -, hsnapshot, -⟩ := (load_eq_ok_iff hfaults).1 h
  refine ⟨fun directory => ⟨FileTree.pairwise_entries hfaults directory, fun name =>
    FileTree.mem_entries_iff hfaults⟩, ?_, ?_, fun found hfound c hc => ?_, fun vo host => ?_, ?_,
    fun parent name contents hnone hunusable => load_put_of_isUnusable hfaults hnone hunusable h⟩
  · rw [← hsnapshot, ofItems_walk_eq hfaults]
    exact foldl_addCertificate_eq _
  · rw [← hsnapshot, ofItems_walk_eq hfaults]
    exact pairwise_foldl_addCertificate .nil _
  · rw [← hsnapshot, ofItems_walk_eq hfaults]
    exact exists_mem_foldl_addCertificate _ [] c (List.mem_flatMap.2 ⟨found, hfound, hc⟩)
  · rw [← hsnapshot, find?_ofItems_walk hfaults]
  · rw [← hsnapshot, ofItems_walk_eq hfaults]

end Load

end TrustSnapshot

namespace Sample

/-- The default trust directory, with an LSC file, and a file of certificates without any in a
directory `more` of the working directory. -/
def mixedTree : FileTree :=
  ((FileTree.empty.write "/etc/grid-security/vomsdir/vo.example/voms.example.org.lsc"
    (Bytes.ofText "/C=CH/CN=voms.example.org\n")).write "/home/user/more/empty.pem" []).workIn
      "/home/user"

/-- The default trust directory and two relative ones. -/
def mixedDirectories : List String := ["/etc/grid-security/vomsdir", "old", "more"]

end Sample

/-- The directory `old` does not exist. An LSC file with nothing in it is added. -/
theorem TrustSnapshot.load_contents_sample :
    ∃ snapshot, load .skip Sample.mixedTree Sample.mixedDirectories = .ok snapshot ∧
      snapshot.skipped = ["old", "more/empty.pem"] ∧
      (snapshot.lsc.find? "vo.example" "voms.example.org").isSome = true ∧
      ∃ skipped, load .skip (Sample.mixedTree.put
        (Sample.mixedTree.components "/etc/grid-security/vomsdir/vo.example" ++
          [⟨"a.lsc", by decide⟩]) (.file [])) Sample.mixedDirectories =
            .ok { snapshot with skipped } := by
  have hload : (load .skip Sample.mixedTree Sample.mixedDirectories).isOk = true := by
    decide +kernel
  cases hs : load .skip Sample.mixedTree Sample.mixedDirectories with
  | error error => simp [hs, Except.isOk, Except.toBool] at hload
  | ok snapshot =>
    obtain ⟨-, -, -, -, hlsc, hskipped, hput⟩ := load_contents (by decide +kernel) hs
    obtain ⟨skipped, hskips, -, -⟩ :=
      hput (Sample.mixedTree.components "/etc/grid-security/vomsdir/vo.example")
        ⟨"a.lsc", by decide⟩ [] (by decide +kernel) ⟨by decide +kernel, by decide +kernel⟩
    exact ⟨snapshot, rfl, hskipped.trans (by decide +kernel),
      (congrArg Option.isSome (hlsc _ _)).trans (by decide +kernel), skipped, hskips⟩

end GridAuthz
