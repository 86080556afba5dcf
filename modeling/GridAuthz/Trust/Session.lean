import GridAuthz.Trust.Store

/-!
# Trust stores in use

A trust store while the files that it is loaded from change. Whoever asks for the snapshot keeps
the one that is there at the time, whatever is loaded later.
-/

namespace GridAuthz

/-- A trust store of either kind. -/
inductive TrustSource where
  /-- A store that is loaded again only when asked to. -/
  | plain (store : TrustStore)
  /-- A store that is also loaded again periodically. -/
  | refreshing (r : RefreshingStore)
  deriving DecidableEq

namespace TrustSource

/-- Opens a store, one to be loaded again periodically when there is a period. -/
def openAt (tree : FileTree) (directories : List String) :
    (period : Option Duration) → Except TrustError TrustSource
  | none => (TrustStore.openAt tree directories).map plain
  | some period => (RefreshingStore.openAt tree directories period).map refreshing

/-- The directories and the snapshot. -/
def store : TrustSource → TrustStore
  | plain store => store
  | refreshing r => r.store

/-- Loads the directories again now. -/
def reload (tree : FileTree) : TrustSource → Except TrustError TrustSource
  | plain store => (store.reload tree).map plain
  | refreshing r => (r.reload tree).map refreshing

/-- Stops periodic loads, if there are any. -/
def cancel : TrustSource → TrustSource
  | plain store => plain store
  | refreshing r => refreshing r.cancel

/-- There are periodic loads. -/
def isPeriodic : TrustSource → Bool
  | plain _ => false
  | refreshing r => !r.cancelled

end TrustSource

/-- A trust store with its files. -/
structure TrustSession where
  /-- The files as they are now. -/
  tree : FileTree
  /-- The store. -/
  source : TrustSource
  /-- The snapshots that have been handed out, in order. -/
  handedOut : List TrustSnapshot
  deriving DecidableEq

namespace TrustSession

/-- Opens a store. -/
def openAt (tree : FileTree) (directories : List String) (period : Option Duration) :
    Except TrustError TrustSession :=
  (TrustSource.openAt tree directories period).map fun source => ⟨tree, source, []⟩

/-- The current snapshot. -/
def snapshot (s : TrustSession) : TrustSnapshot := s.source.store.snapshot

/-- Loads the directories again. A failure is reported and changes nothing. -/
def load (s : TrustSession) : Except TrustError Unit × TrustSession :=
  match s.source.reload s.tree with
  | .ok source => (.ok (), { s with source })
  | .error error => (.error error, s)

/-- What can happen. -/
inductive Event where
  /-- Files change, in whatever way. -/
  | change (tree : FileTree)
  /-- Someone loads the directories again. -/
  | load
  /-- The time between two periodic loads has passed. -/
  | periodEnd
  /-- Someone stops periodic loads. -/
  | cancel
  /-- Someone asks for the snapshot. -/
  | handOut
  deriving DecidableEq

/-- The session after an event. -/
def step (s : TrustSession) : Event → TrustSession
  | .change tree => { s with tree }
  | .load => s.load.2
  | .periodEnd => if s.source.isPeriodic then s.load.2 else s
  | .cancel => { s with source := s.source.cancel }
  | .handOut => { s with handedOut := s.handedOut ++ [s.snapshot] }

/-- The session after a row of events. -/
def run (s : TrustSession) (events : List Event) : TrustSession := events.foldl step s

end TrustSession

end GridAuthz
