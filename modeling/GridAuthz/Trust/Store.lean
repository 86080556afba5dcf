import GridAuthz.Calendar.Duration
import GridAuthz.Trust.Directory

/-!
# Trust stores

A trust store keeps the snapshot of its trust directories. It is opened only if all of them
exist. When it is loaded again later, a directory that has vanished is merely skipped; if
nothing is left to trust, loading fails and the old snapshot stays.

A refreshing store is meant to be loaded again periodically, until it is cancelled.
-/

namespace GridAuthz

/-- Trust directories with the last snapshot of them. -/
structure TrustStore where
  /-- The directories. -/
  directories : List String
  /-- The snapshot. -/
  snapshot : TrustSnapshot
  deriving DecidableEq

namespace TrustStore

/-- Opens a store. All directories have to exist. -/
def openAt (tree : FileTree) (directories : List String) : Except TrustError TrustStore :=
  (TrustSnapshot.load .fail tree directories).map fun snapshot => { directories, snapshot }

/-- Loads the directories again. -/
def reload (store : TrustStore) (tree : FileTree) : Except TrustError TrustStore :=
  (TrustSnapshot.load .skip tree store.directories).map fun snapshot => { store with snapshot }

end TrustStore

/-- A store that is loaded again periodically. -/
structure RefreshingStore where
  /-- The store. -/
  store : TrustStore
  /-- The time between loads. -/
  period : Duration
  /-- There will be no more periodic loads. -/
  cancelled : Bool
  deriving DecidableEq

namespace RefreshingStore

/-- Opens a store to be loaded again after every period. -/
def openAt (tree : FileTree) (directories : List String) (period : Duration) :
    Except TrustError RefreshingStore :=
  if period = .ofSeconds 0 then .error .zeroPeriod
  else (TrustStore.openAt tree directories).map fun store =>
    { store, period, cancelled := false }

/-- Loads the directories again now. -/
def reload (r : RefreshingStore) (tree : FileTree) : Except TrustError RefreshingStore :=
  (r.store.reload tree).map fun store => { r with store }

/-- Stops periodic loads; doing so again has no effect. -/
def cancel (r : RefreshingStore) : RefreshingStore := { r with cancelled := true }

end RefreshingStore

end GridAuthz
