import AccessControl.Proofs.Cluster.Attendance
import AccessControl.Proofs.Memory.EntryTable

/-!
# Nodes that have grants for a user

The grants that a node decides by are whatever is cached for the user under its snapshot's revision,
or else what the snapshot resolves to.  A user without a record has none.  So any grants at all can be
those of a known user, and a request is decided by them and by the addressed entry alone.
-/

namespace AccessControl

variable {node : Nat} {cluster : Cluster} {settings : Settings} {table : EntryTable}
  {snapshot : Snapshot} {name : String} {found : Option User} {grants : Grants}
  {request : AccessRequest}

/-- Whether the addressed entry grants the action is always found out in a table of saved entries. -/
theorem EntryTable.Reachable.exists_grantedByEntry (reachable : table.Reachable)
    (request : AccessRequest) : ∃ byEntry, request.grantedByEntry table = .ok byEntry := by
  unfold AccessRequest.grantedByEntry
  cases request.aclLocator? with
  | none => exact ⟨false, rfl⟩
  | some locator =>
      obtain ⟨answer, read⟩ := reachable.exists_find locator
      exact ⟨answer.elim false fun entry => entry.aclGrants request.user request.action,
        congrArg (Except.map _) read⟩

namespace Cluster

/-- The grants of a user come from the cache or are resolved and cached. -/
theorem Reads.cached {cache : GrantCache} {user : User} (reads : cluster.Reads node table)
    (isCache : (cluster.cacheStores (cluster.nodes node).wiring.cache).store = .memory cache) :
    ∃ after, operate node (Principal.cached settings snapshot name user) cluster =
      (.ok ((cache.get snapshot.revision name).getD
        (Resolution.grants snapshot user settings.defaultRole)), after) := by
  rw [Principal.cached, operate_bind_of_ok (reads.call_cacheGet isCache _ _)]
  cases cache.get snapshot.revision name with
  | some grants => exact ⟨_, operate_pure _⟩
  | none =>
      have readsThen (grants : Option Grants) (events : List Event) :
          ((cluster.answered (.cacheGet snapshot.revision name) (.ok grants)).told events).Reads
            node table := ⟨reads.answers, reads.entries⟩
      rw [operate_bind_of_ok Principal.operate_resolve,
        operate_bind_of_ok ((readsThen _ _).call_cachePut isCache _ _ _ _)]
      exact ⟨_, operate_pure _⟩

/-- What a node finds out to decide a request, when no store fails: whether the addressed entry grants
the action, and who asks. -/
structure FindsOut (cluster : Cluster) (node : Nat) (settings : Settings) (request : AccessRequest)
    (byEntry : Bool) (principal : Principal) : Prop where
  entry : (operate node (aclAllows request) cluster).1 = .ok byEntry
  user : (operate node (Principal.load settings request.user)
    (operate node (aclAllows request) cluster).2).1 = .ok principal

/-- A request is decided by what the node finds out. -/
theorem FindsOut.checkAccess {byEntry : Bool} {principal : Principal}
    (finds : cluster.FindsOut node settings request byEntry principal) :
    (operate node (AccessControl.checkAccess settings request) cluster).1 =
      .ok (byEntry || request.allowedBy principal) := by
  obtain ⟨answered, loaded⟩ := finds
  cases ran : operate node (aclAllows request) cluster with
  | mk answer afterEntry =>
      rw [ran] at answered loaded
      obtain rfl : answer = .ok byEntry := answered
      cases byEntry with
      | true =>
          rw [AccessControl.checkAccess, operate_bind_of_ok ran]
          rfl
      | false =>
          cases ranLoad : operate node (Principal.load settings request.user) afterEntry with
          | mk found afterLoad =>
              rw [ranLoad] at loaded
              obtain rfl : found = .ok principal := loaded
              rw [Bool.false_or]
              exact AccessRequest.operate_checkAccess_of_load ran ranLoad

/-- The grants that a node has for whoever it finds: the cached ones, or the resolved ones if none
are cached or none ever are. -/
inductive HasGrants (cluster : Cluster) (node : Nat) (settings : Settings) (name : String) :
    Option User → Grants → Prop where
  | unknown : HasGrants cluster node settings name none ∅
  | uncached {user : User} (never : settings.cacheSeconds = 0) :
      HasGrants cluster node settings name (some user)
        (Resolution.grants (cluster.nodes node).snapshot user settings.defaultRole)
  | cached {user : User} {cache : GrantCache} (caches : settings.cacheSeconds ≠ 0)
      (isCache : (cluster.cacheStores (cluster.nodes node).wiring.cache).store = .memory cache) :
      HasGrants cluster node settings name (some user)
        ((cache.get (cluster.nodes node).snapshot.revision name).getD
          (Resolution.grants (cluster.nodes node).snapshot user settings.defaultRole))

/-- A node that reads a user's record from a table of entries and has grants for the user. -/
structure Provides (cluster : Cluster) (node : Nat) (settings : Settings) (table : EntryTable)
    (name : String) (found : Option User) (grants : Grants) : Prop where
  reads : cluster.Reads node table
  record : table.find User.decoder (Principal.locator settings name) = .ok found
  has : cluster.HasGrants node settings name found grants

namespace Provides

/-- Nothing is granted to somebody without a record. -/
theorem eq_empty (provides : cluster.Provides node settings table name none grants) : grants = ∅ := by
  cases provides.has
  rfl

theorem journaled (provides : cluster.Provides node settings table name found grants)
    (journal : List Occurrence) :
    { cluster with journal := journal }.Provides node settings table name found grants where
  reads := ⟨provides.reads.answers, provides.reads.entries⟩
  record := provides.record
  has := by
    cases provides.has with
    | unknown => exact .unknown
    | uncached never => exact .uncached never
    | cached caches isCache => exact .cached caches isCache

/-- Looking the user up gives the record with the grants. -/
theorem load (provides : cluster.Provides node settings table name found grants) :
    ∃ after, operate node (Principal.load settings name) cluster =
      (.ok ⟨found, grants⟩, after) := by
  have called := provides.reads.call_findUser (Principal.locator settings name)
  rw [provides.record] at called
  cases provides.has with
  | unknown => exact ⟨_, Principal.operate_load_unknown called⟩
  | uncached never => exact ⟨_, Principal.operate_load_uncached never called⟩
  | @cached user cache caches isCache =>
      have reads : (cluster.answered (.findUser (Principal.locator settings name))
          (.ok (some user))).Reads node table := ⟨provides.reads.answers, provides.reads.entries⟩
      obtain ⟨after, ran⟩ := reads.cached isCache
      rw [← operate_call] at called
      rw [Principal.load, operate_bind_of_ok operate_current, operate_bind_of_ok called]
      simp only [caches, if_false]
      rw [operate_bind_of_ok ran]
      exact ⟨after, operate_pure _⟩

/-- A node that reads entries from a table finds out what the addressed entry grants, and has the
grants of the user. -/
theorem finds {byEntry : Bool}
    (provides : cluster.Provides node settings table request.user found grants)
    (read : request.grantedByEntry table = .ok byEntry) :
    cluster.FindsOut node settings request byEntry ⟨found, grants⟩ := by
  obtain ⟨journal, answered⟩ := provides.reads.aclAllows request
  obtain ⟨after, loaded⟩ := (provides.journaled journal).load
  rw [read] at answered
  constructor
  · rw [answered]
  · rw [answered, loaded]

/-- A request is decided by the addressed entry and the grants. -/
theorem checkAccess (provides : cluster.Provides node settings table request.user found grants)
    {byEntry : Bool} (read : request.grantedByEntry table = .ok byEntry) :
    (operate node (AccessControl.checkAccess settings request) cluster).1 =
      .ok (byEntry || request.allowedBy ⟨found, grants⟩) :=
  (provides.finds read).checkAccess

end Provides

/-- A node that serves a user provides the resolved grants. -/
theorem Serves.provides {user : User}
    (serves : cluster.Serves node settings table snapshot name user) :
    cluster.Provides node settings table name (some user)
      (Resolution.grants snapshot user settings.defaultRole) where
  reads := serves.reads
  record := serves.known
  has := by
    obtain rfl := serves.current
    by_cases never : settings.cacheSeconds = 0
    · exact .uncached never
    · obtain ⟨cache, isCache, coherent⟩ := serves.coherent.resolve_left never
      have same : (cache.get (cluster.nodes node).snapshot.revision name).getD
          (Resolution.grants (cluster.nodes node).snapshot user settings.defaultRole) =
            Resolution.grants (cluster.nodes node).snapshot user settings.defaultRole := by
        cases hit : cache.get (cluster.nodes node).snapshot.revision name with
        | none => rfl
        | some grants => exact coherent grants hit
      exact same ▸ .cached never isCache

end Cluster

end AccessControl
