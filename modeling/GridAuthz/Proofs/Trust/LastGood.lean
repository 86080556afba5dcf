import Mathlib.Data.List.Induction
import GridAuthz.Configuration
import GridAuthz.Proofs.Trust.Loading
import GridAuthz.Trust.Session

/-!
# The last good load

Whatever happens to a trust store and its files, the current snapshot is what came of the last load
that succeeded (`TrustSession.IsLastGood`). This is kept by each event (`Follows.step`), so it holds
after any number of them (`follows_run`), and with it the guarantees that a user of the store has
(`TrustSession.snapshot_run`).
-/

namespace GridAuthz

/-! ### Installing a snapshot -/

namespace TrustSource

/-- Puts a snapshot in the place of the current one. -/
def install (snapshot : TrustSnapshot) : TrustSource → TrustSource
  | plain store => plain { store with snapshot }
  | refreshing r => refreshing { r with store := { r.store with snapshot } }

variable {source : TrustSource} {snapshot : TrustSnapshot}

@[simp] theorem snapshot_install : (source.install snapshot).store.snapshot = snapshot := by
  cases source <;> rfl

@[simp] theorem directories_install :
    (source.install snapshot).store.directories = source.store.directories := by
  cases source <;> rfl

@[simp] theorem isPeriodic_install : (source.install snapshot).isPeriodic = source.isPeriodic := by
  cases source <;> rfl

@[simp] theorem install_self : source.install source.store.snapshot = source := by
  cases source <;> rfl

@[simp] theorem store_cancel : source.cancel.store = source.store := by cases source <;> rfl

@[simp] theorem isPeriodic_cancel : source.cancel.isPeriodic = false := by cases source <;> rfl

theorem reload_eq {tree : FileTree} : source.reload tree =
    (TrustSnapshot.load .skip tree source.store.directories).map source.install := by
  cases source with
  | plain plainStore =>
    rw [reload, TrustStore.reload, store]
    cases TrustSnapshot.load .skip tree plainStore.directories <;> rfl
  | refreshing r =>
    rw [reload, RefreshingStore.reload, TrustStore.reload, store]
    cases TrustSnapshot.load .skip tree r.store.directories <;> rfl

variable {tree : FileTree} {directories : List String} {period : Option Duration}

/-- A store is opened with what its directories hold, which then have to exist. -/
theorem load_of_openAt (h : openAt tree directories period = .ok source) :
    source.store.directories = directories ∧
      TrustSnapshot.load .fail tree directories = .ok source.store.snapshot ∧
      source.isPeriodic = period.isSome := by
  cases period with
  | none =>
    obtain ⟨_, hstore, rfl⟩ := map_eq_ok_iff.1 h
    obtain ⟨snapshot, hload, rfl⟩ := map_eq_ok_iff.1 hstore
    exact ⟨rfl, hload, rfl⟩
  | some period =>
    obtain ⟨r, hr, rfl⟩ := map_eq_ok_iff.1 h
    rw [RefreshingStore.openAt] at hr
    split at hr
    · cases hr
    · obtain ⟨_, hstore, rfl⟩ := map_eq_ok_iff.1 hr
      obtain ⟨snapshot, hload, rfl⟩ := map_eq_ok_iff.1 hstore
      exact ⟨rfl, hload, rfl⟩

end TrustSource

/-! ### Runs -/

namespace TrustSession

variable {tree : FileTree} {directories : List String} {periodic : Bool} {events : List Event}
  {event : Event} {s : TrustSession} {files : FileTree} {snapshot : TrustSnapshot}

/-- The files after a row of events are those of the last change. -/
def filesAfter (tree : FileTree) (events : List Event) : FileTree :=
  (events.filterMap fun
    | .change changed => some changed
    | _ => none).getLastD tree

/-- An event that follows others loads the directories: it is a call, or the end of a period while
there are periodic loads. -/
def Loads (periodic : Bool) (events : List Event) (event : Event) : Prop :=
  event = .load ∨ event = .periodEnd ∧ periodic = true ∧ .cancel ∉ events

/-- At place `i` of a row of events the directories were loaded, with the given outcome. -/
def LoadsAt (tree : FileTree) (directories : List String) (periodic : Bool) (events : List Event)
    (i : Nat) (outcome : Except TrustError TrustSnapshot) : Prop :=
  ∃ event, events[i]? = some event ∧ Loads periodic (events.take i) event ∧
    outcome = TrustSnapshot.load .skip (filesAfter tree (events.take i)) directories

/-- A snapshot is what came of the last load that succeeded, and `files` are the files that it was
loaded from. -/
inductive IsLastGood (tree : FileTree) (directories : List String) (periodic : Bool)
    (events : List Event) : (files : FileTree) → (snapshot : TrustSnapshot) → Prop where
  /-- It was loaded when the store was opened, and no later load has succeeded. -/
  | opening {snapshot : TrustSnapshot} :
      TrustSnapshot.load .fail tree directories = .ok snapshot →
      (∀ i later, ¬LoadsAt tree directories periodic events i (.ok later)) →
      IsLastGood tree directories periodic events tree snapshot
  /-- It was loaded at place `i`, and no later load has succeeded. -/
  | reload {i : Nat} {snapshot : TrustSnapshot} :
      LoadsAt tree directories periodic events i (.ok snapshot) →
      (∀ j later, i < j → ¬LoadsAt tree directories periodic events j (.ok later)) →
      IsLastGood tree directories periodic events (filesAfter tree (events.take i)) snapshot

theorem filesAfter_concat_change {changed : FileTree} :
    filesAfter tree (events ++ [.change changed]) = changed := by
  simp [filesAfter, List.filterMap_append]

theorem filesAfter_concat (h : ∀ changed, event ≠ .change changed) :
    filesAfter tree (events ++ [event]) = filesAfter tree events := by
  cases event with
  | change changed => exact absurd rfl (h changed)
  | _ => simp [filesAfter, List.filterMap_append]

/-! ### One event more -/

variable {outcome : Except TrustError TrustSnapshot} {i : Nat}

theorem loadsAt_concat_iff_of_lt (hi : i < events.length) :
    LoadsAt tree directories periodic (events ++ [event]) i outcome ↔
      LoadsAt tree directories periodic events i outcome := by
  rw [LoadsAt, LoadsAt, List.getElem?_append_left hi, List.take_append_of_le_length hi.le]

theorem loadsAt_concat_length_iff :
    LoadsAt tree directories periodic (events ++ [event]) events.length outcome ↔
      Loads periodic events event ∧
        outcome = TrustSnapshot.load .skip (filesAfter tree events) directories := by
  simp [LoadsAt]

/-- The outcome of a load that came before stays; a load that comes last has its own. -/
theorem LoadsAt.of_concat (h : LoadsAt tree directories periodic (events ++ [event]) i outcome) :
    LoadsAt tree directories periodic events i outcome ∨
      i = events.length ∧ Loads periodic events event ∧
        outcome = TrustSnapshot.load .skip (filesAfter tree events) directories := by
  obtain ⟨_, hevent, -⟩ := id h
  have hi := (List.getElem?_eq_some_iff.1 hevent).1
  rw [List.length_append, List.length_singleton] at hi
  rcases Nat.lt_or_eq_of_le (Nat.le_of_lt_succ hi) with hlt | rfl
  · exact .inl ((loadsAt_concat_iff_of_lt hlt).1 h)
  · exact .inr ⟨rfl, loadsAt_concat_length_iff.1 h⟩

/-- The last good load is still that after an event that loads nothing. -/
theorem IsLastGood.concat (h : IsLastGood tree directories periodic events files snapshot)
    (hfails : Loads periodic events event → ∀ later,
      TrustSnapshot.load .skip (filesAfter tree events) directories ≠ .ok later) :
    IsLastGood tree directories periodic (events ++ [event]) files snapshot := by
  have hlater : ∀ {j later},
      LoadsAt tree directories periodic (events ++ [event]) j (.ok later) →
        LoadsAt tree directories periodic events j (.ok later) := by
    intro j later hj
    rcases hj.of_concat with hj | ⟨-, hloads, hload⟩
    · exact hj
    · exact absurd hload.symm (hfails hloads later)
  cases h with
  | opening hload hlast => exact .opening hload fun j later hj => hlast j later (hlater hj)
  | @reload i _ hload hlast =>
    obtain ⟨_, hevent, -⟩ := id hload
    have hi := (List.getElem?_eq_some_iff.1 hevent).1
    have htake : (events ++ [event]).take i = events.take i := List.take_append_of_le_length hi.le
    rw [← htake]
    exact .reload ((loadsAt_concat_iff_of_lt hi).2 hload) fun j later hij hj =>
      hlast j later hij (hlater hj)

theorem isLastGood_of_loads (hloads : Loads periodic events event)
    (hload : TrustSnapshot.load .skip (filesAfter tree events) directories = .ok snapshot) :
    IsLastGood tree directories periodic (events ++ [event]) (filesAfter tree events) snapshot := by
  have hfiles : filesAfter tree ((events ++ [event]).take events.length) =
      filesAfter tree events := by rw [List.take_left]
  rw [← hfiles]
  refine .reload (loadsAt_concat_length_iff.2 ⟨hloads, hload.symm⟩) fun j later hj hlater => ?_
  obtain ⟨_, hevent, -⟩ := hlater
  have hlt := (List.getElem?_eq_some_iff.1 hevent).1
  rw [List.length_append, List.length_singleton] at hlt
  omega

/-! ### What a session keeps -/

theorem load_eq_of_ok
    (h : TrustSnapshot.load .skip s.tree s.source.store.directories = .ok snapshot) :
    s.load = (.ok (), { s with source := s.source.install snapshot }) := by
  rw [load, TrustSource.reload_eq, h]
  rfl

theorem load_eq_of_error {error : TrustError}
    (h : TrustSnapshot.load .skip s.tree s.source.store.directories = .error error) :
    s.load = (.error error, s) := by
  rw [load, TrustSource.reload_eq, h]
  rfl

/-- A session is what becomes of a store that was opened on `tree` in a row of events. -/
structure Follows (tree : FileTree) (directories : List String) (periodic : Bool)
    (events : List Event) (s : TrustSession) : Prop where
  /-- The files are those of the last change. -/
  tree_eq : s.tree = filesAfter tree events
  /-- The directories are those of the beginning. -/
  directories_eq : s.source.store.directories = directories
  /-- There are periodic loads until someone stops them. -/
  isPeriodic_iff : s.source.isPeriodic = true ↔ periodic = true ∧ .cancel ∉ events
  /-- The snapshot is that of the last good load. -/
  isLastGood : ∃ files, IsLastGood tree directories periodic events files s.snapshot

theorem follows_nil {period : Option Duration} (h : openAt tree directories period = .ok s) :
    Follows tree directories period.isSome [] s := by
  obtain ⟨source, hsource, rfl⟩ := map_eq_ok_iff.1 h
  obtain ⟨hdirectories, hload, hperiodic⟩ := TrustSource.load_of_openAt hsource
  refine ⟨rfl, hdirectories, by simp [hperiodic], tree, .opening hload ?_⟩
  rintro i later ⟨_, hevent, -⟩
  simp at hevent

theorem Follows.tree_eq_concat (h : Follows tree directories periodic events s)
    (hchange : ∀ changed, event ≠ .change changed) :
    s.tree = filesAfter tree (events ++ [event]) := by
  rw [h.tree_eq, filesAfter_concat hchange]

theorem Follows.isPeriodic_iff_concat (h : Follows tree directories periodic events s)
    (hcancel : event ≠ .cancel) :
    s.source.isPeriodic = true ↔ periodic = true ∧ .cancel ∉ events ++ [event] := by
  simp [h.isPeriodic_iff, hcancel.symm]

/-- Loading installs what comes of it, or leaves everything as it was. -/
theorem Follows.concat_load (h : Follows tree directories periodic events s)
    (hloads : Loads periodic events event) :
    Follows tree directories periodic (events ++ [event]) s.load.2 := by
  have hchange : ∀ changed, event ≠ .change changed := by
    rintro changed rfl
    simp [Loads] at hloads
  have hcancel : event ≠ .cancel := by
    rintro rfl
    simp [Loads] at hloads
  cases hload : TrustSnapshot.load .skip s.tree s.source.store.directories with
  | error error =>
    rw [load_eq_of_error hload]
    rw [h.tree_eq, h.directories_eq] at hload
    obtain ⟨files, hgood⟩ := h.isLastGood
    exact ⟨h.tree_eq_concat hchange, h.directories_eq, h.isPeriodic_iff_concat hcancel, files,
      hgood.concat fun _ later => by simp [hload]⟩
  | ok loaded =>
    rw [load_eq_of_ok hload]
    rw [h.tree_eq, h.directories_eq] at hload
    have hgood := isLastGood_of_loads hloads hload
    exact ⟨h.tree_eq_concat hchange, by simpa using h.directories_eq,
      by simpa using h.isPeriodic_iff_concat hcancel, _,
      by simpa [TrustSession.snapshot] using hgood⟩

/-- Only loading makes a difference to the last good load. -/
theorem Follows.step (h : Follows tree directories periodic events s) (event : Event) :
    Follows tree directories periodic (events ++ [event]) (s.step event) := by
  obtain ⟨files, hgood⟩ := h.isLastGood
  have hidle : ¬Loads periodic events event →
      IsLastGood tree directories periodic (events ++ [event]) files s.snapshot :=
    fun hnot => hgood.concat fun hloads => absurd hloads hnot
  cases event with
  | change changed =>
    exact ⟨filesAfter_concat_change.symm, h.directories_eq, h.isPeriodic_iff_concat (by simp),
      files, hidle (by simp [Loads])⟩
  | load => exact h.concat_load (.inl rfl)
  | periodEnd =>
    rw [TrustSession.step]
    split
    · next hperiodic => exact h.concat_load (.inr ⟨rfl, h.isPeriodic_iff.1 hperiodic⟩)
    · next hperiodic =>
      exact ⟨h.tree_eq_concat (by simp), h.directories_eq, h.isPeriodic_iff_concat (by simp),
        files, hidle (by simpa [Loads, h.isPeriodic_iff] using hperiodic)⟩
  | cancel =>
    exact ⟨h.tree_eq_concat (by simp), by simpa [TrustSession.step] using h.directories_eq,
      by simp [TrustSession.step], files,
      by simpa [TrustSession.step, TrustSession.snapshot] using hidle (by simp [Loads])⟩
  | handOut =>
    exact ⟨h.tree_eq_concat (by simp), h.directories_eq, h.isPeriodic_iff_concat (by simp), files,
      hidle (by simp [Loads])⟩

theorem run_append (s : TrustSession) (events more : List Event) :
    s.run (events ++ more) = (s.run events).run more := List.foldl_append

/-- The snapshot is that of the last good load after any row of events. -/
theorem follows_run {period : Option Duration} (h : openAt tree directories period = .ok s)
    (events : List Event) : Follows tree directories period.isSome events (s.run events) := by
  induction events using List.reverseRecOn with
  | nil => exact follows_nil h
  | append_singleton events event ih =>
    rw [run_append]
    exact ih.step event

/-! ### What the last good load gives -/

/-- What was loaded is what loading again would give on the same files, even if it was loaded when
directories still had to exist. -/
theorem IsLastGood.load_eq (h : IsLastGood tree directories periodic events files snapshot) :
    TrustSnapshot.load .skip files directories = .ok snapshot := by
  cases h with
  | opening hload => exact TrustSnapshot.load_skip_of_load_fail hload
  | reload hload =>
    obtain ⟨_, -, -, houtcome⟩ := hload
    exact houtcome.symm

/-- As long as the directories are what they were, loading again changes nothing. -/
theorem Follows.load_eq_self (h : Follows tree directories periodic events s)
    (hgood : IsLastGood tree directories periodic events files s.snapshot)
    (hsame : ∀ directory ∈ directories, FileTree.SameBelow files s.tree directory) :
    s.load = (.ok (), s) := by
  have hload := hgood.load_eq
  rw [TrustSnapshot.load_congr hsame, ← h.directories_eq] at hload
  rw [load_eq_of_ok hload, TrustSession.snapshot, TrustSource.install_self]

/-! ### What has been handed out -/

theorem handedOut_step (s : TrustSession) (event : Event) :
    s.handedOut <+: (s.step event).handedOut := by
  have hload : s.load.2.handedOut = s.handedOut := by
    rw [load]
    split <;> rfl
  cases event with
  | change changed => exact List.prefix_rfl
  | load => exact hload ▸ List.prefix_rfl
  | periodEnd =>
    rw [step]
    split
    · exact hload ▸ List.prefix_rfl
    · exact List.prefix_rfl
  | cancel => exact List.prefix_rfl
  | handOut => exact List.prefix_append _ _

/-- What has been handed out is never taken back or changed. -/
theorem handedOut_run (s : TrustSession) (events : List Event) :
    s.handedOut <+: (s.run events).handedOut := by
  induction events generalizing s with
  | nil => exact List.prefix_rfl
  | cons event events ih => exact (handedOut_step s event).trans (ih (s.step event))

/-! ### Cancelling -/

theorem run_replicate_cancel (s : TrustSession) (count : Nat) :
    (s.run (List.replicate count .cancel)).tree = s.tree ∧
      (s.run (List.replicate count .cancel)).source.store = s.source.store := by
  induction count generalizing s with
  | zero => exact ⟨rfl, rfl⟩
  | succ count ih =>
    obtain ⟨htree, hstore⟩ := ih (s.step .cancel)
    exact ⟨htree, hstore.trans TrustSource.store_cancel⟩

/-- What loading comes to depends on the files and the store, not on whether there are periodic
loads. -/
theorem load_congr {s' : TrustSession} (htree : s.tree = s'.tree)
    (hstore : s.source.store = s'.source.store) :
    s.load.1 = s'.load.1 ∧ s.load.2.snapshot = s'.load.2.snapshot := by
  cases hload : TrustSnapshot.load .skip s.tree s.source.store.directories with
  | error error =>
    rw [load_eq_of_error hload, load_eq_of_error (htree ▸ hstore ▸ hload)]
    exact ⟨rfl, congrArg TrustStore.snapshot hstore⟩
  | ok loaded =>
    rw [load_eq_of_ok hload, load_eq_of_ok (htree ▸ hstore ▸ hload)]
    simp [TrustSession.snapshot]

end TrustSession

open TrustSession in
/-- The trust snapshot is always that of the last good load. After any row of events

* it is not empty;
* it is what came of the last load that succeeded, and as long as each directory is what it was
  then, loading again succeeds and changes nothing;
* loading again fails with its error and changes nothing, or installs what it comes to;
* what is handed out now is this snapshot and stays as it is;
* stopping periodic loads, any number of times, changes neither it nor what loading comes to. -/
theorem TrustSession.snapshot_run {tree : FileTree} {directories : List String}
    {period : Option Duration} {s : TrustSession} (h : openAt tree directories period = .ok s)
    (events : List Event) :
    (s.run events).snapshot.isEmpty = false ∧
    (∃ files, IsLastGood tree directories period.isSome events files (s.run events).snapshot ∧
      ((∀ directory ∈ directories, files.SameBelow (s.run events).tree directory) →
        (s.run events).load = (.ok (), s.run events))) ∧
    (∀ error, TrustSnapshot.load .skip (filesAfter tree events) directories = .error error →
      (s.run events).load = (.error error, s.run events)) ∧
    (∀ loaded, TrustSnapshot.load .skip (filesAfter tree events) directories = .ok loaded →
      (s.run events).load.1 = .ok () ∧ (s.run events).load.2.snapshot = loaded) ∧
    (∀ more, (s.run events).handedOut ++ [(s.run events).snapshot] <+:
      (s.run (events ++ .handOut :: more)).handedOut) ∧
    ∀ count, (s.run (events ++ List.replicate count .cancel)).snapshot = (s.run events).snapshot ∧
      (s.run (events ++ List.replicate count .cancel)).load.1 = (s.run events).load.1 ∧
      (s.run (events ++ List.replicate count .cancel)).load.2.snapshot =
        (s.run events).load.2.snapshot := by
  have hfollows := follows_run h events
  obtain ⟨files, hgood⟩ := hfollows.isLastGood
  refine ⟨TrustSnapshot.isEmpty_of_load hgood.load_eq, ⟨files, hgood, hfollows.load_eq_self hgood⟩,
    fun error hload => ?_, fun loaded hload => ?_, fun more => ?_, fun count => ?_⟩
  · rw [← hfollows.tree_eq, ← hfollows.directories_eq] at hload
    exact load_eq_of_error hload
  · rw [← hfollows.tree_eq, ← hfollows.directories_eq] at hload
    rw [load_eq_of_ok hload]
    exact ⟨rfl, TrustSource.snapshot_install⟩
  · rw [run_append]
    exact handedOut_run ((s.run events).step .handOut) more
  · obtain ⟨htree, hstore⟩ := run_replicate_cancel (s.run events) count
    rw [run_append]
    exact ⟨congrArg TrustStore.snapshot hstore, load_congr htree hstore⟩

namespace Sample

/-- The default trust directory, with one LSC file. -/
def trustTree : FileTree :=
  FileTree.empty.write "/etc/grid-security/vomsdir/vo.example/voms.example.org.lsc"
    (Bytes.ofText "/C=CH/CN=voms.example.org\n")

/-- The default settings. -/
def trustSettings : TrustStoreSettings := {}

end Sample

/-- The files are removed, so that loading fails, and the snapshot stays. -/
theorem TrustSession.snapshot_run_sample :
    ∃ s, openAt Sample.trustTree Sample.trustSettings.directories
        (some Sample.trustSettings.period) = .ok s ∧
      (s.run [.change .empty, .periodEnd, .cancel]).snapshot.isEmpty = false ∧
      (s.run [.change .empty, .periodEnd, .cancel]).load.1 = .error .nothingTrusted := by
  have hopen : (openAt Sample.trustTree Sample.trustSettings.directories
      (some Sample.trustSettings.period)).isOk = true := by
    decide +kernel
  cases hs : openAt Sample.trustTree Sample.trustSettings.directories
      (some Sample.trustSettings.period) with
  | error error => simp [hs, Except.isOk, Except.toBool] at hopen
  | ok s =>
    obtain ⟨hnonempty, -, hfails, -⟩ := snapshot_run hs [.change .empty, .periodEnd, .cancel]
    have herror := hfails .nothingTrusted (by decide +kernel)
    exact ⟨s, rfl, hnonempty, congrArg Prod.fst herror⟩

end GridAuthz
