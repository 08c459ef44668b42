import AccessControl.Proofs.Memory.EntryTable
import AccessControl.Proofs.Principal

/-!
# Nodes that serve a user

A node serves a user when its stores answer, its entries are kept in memory, the user's record is
among them, and what the cache holds for the user is what the node's snapshot resolves to.  Looking
the user up then always gives the resolved grants, by way of the cache or not, and the node goes on
serving the user.
-/

namespace AccessControl

namespace Cluster

variable {node : Nat} {cluster after : Cluster} {settings : Settings} {table : EntryTable}
  {snapshot : Snapshot} {name : String} {user : User}

/-- A node whose stores answer, and whose entries are kept in memory. -/
structure Reads (cluster : Cluster) (node : Nat) (table : EntryTable) : Prop where
  answers : ∀ kind, cluster.fault? (cluster.nodes node).wiring kind = none
  entries : (cluster.entryStores (cluster.nodes node).wiring.entries).store = .memory table

namespace Reads

theorem call_findUser (reads : cluster.Reads node table) (locator : Locator) :
    call node (.findUser locator) cluster =
      (table.find User.decoder locator,
        cluster.answered (.findUser locator) (table.find User.decoder locator)) := by
  rw [call_of_no_fault _ (reads.answers _), callStore, findIn_of_memory reads.entries]

theorem call_findEntry (reads : cluster.Reads node table) (locator : Locator) :
    operate node (.call (.findEntry locator)) cluster =
      (table.find Entry.decoder locator,
        cluster.answered (.findEntry locator) (table.find Entry.decoder locator)) := by
  rw [operate_call, call_of_no_fault _ (reads.answers _), callStore,
    findIn_of_memory reads.entries]

theorem call_cacheGet {cache : GrantCache} (reads : cluster.Reads node table)
    (isCache : (cluster.cacheStores (cluster.nodes node).wiring.cache).store = .memory cache)
    (revision : Uuid) (name : String) :
    operate node (.call (.cacheGet revision name)) cluster =
      (.ok (cache.get revision name),
        cluster.answered (.cacheGet revision name) (.ok (cache.get revision name))) := by
  have read : cachedGrants (cluster.nodes node).wiring.cache revision name cluster =
      (.ok (cache.get revision name), cluster) := by
    simp only [cachedGrants, bind, StateT.bind, get, getThe, MonadStateOf.get, StateT.get, pure,
      isCache]
    rfl
  rw [operate_call, call_of_no_fault _ (reads.answers _), callStore, read]

/-- Grants are always cached. -/
theorem call_cachePut {cache : GrantCache} (reads : cluster.Reads node table)
    (isCache : (cluster.cacheStores (cluster.nodes node).wiring.cache).store = .memory cache)
    (revision : Uuid) (name : String) (grants : Grants) (seconds : Nat) :
    operate node (.call (.cachePut revision name grants seconds)) cluster =
      (.ok (), (Cluster.putCache (cluster.nodes node).wiring.cache
        (cache.put revision name grants seconds) cluster).2.answered
          (.cachePut revision name grants seconds) (.ok ())) := by
  have written : cacheGrants (cluster.nodes node).wiring.cache revision name grants seconds cluster =
      (.ok (), (Cluster.putCache (cluster.nodes node).wiring.cache
        (cache.put revision name grants seconds) cluster).2) := by
    simp only [cacheGrants, bind, StateT.bind, get, getThe, MonadStateOf.get, StateT.get, pure,
      isCache]
    rfl
  rw [operate_call, call_of_no_fault _ (reads.answers _), callStore, written]

end Reads

/-- A node that finds a user's record and holds no other grants for the user than the resolved
ones. -/
structure Serves (cluster : Cluster) (node : Nat) (settings : Settings) (table : EntryTable)
    (snapshot : Snapshot) (name : String) (user : User) : Prop where
  current : (cluster.nodes node).snapshot = snapshot
  answers : ∀ kind, cluster.fault? (cluster.nodes node).wiring kind = none
  entries : (cluster.entryStores (cluster.nodes node).wiring.entries).store = .memory table
  known : table.find User.decoder (Principal.locator settings name) = .ok (some user)
  coherent : settings.cacheSeconds = 0 ∨
    ∃ cache, (cluster.cacheStores (cluster.nodes node).wiring.cache).store = .memory cache ∧
      ∀ grants, cache.get snapshot.revision name = some grants →
        grants = Resolution.grants snapshot user settings.defaultRole

theorem cacheStores_putCache (number : Nat) (cache : GrantCache) (cluster : Cluster) :
    (putCache number cache cluster).2.cacheStores number =
      { cluster.cacheStores number with store := .memory cache } := by
  change replace cluster.cacheStores number _ number = _
  rw [replace, if_pos rfl]

namespace Serves

/-! ## What leaves the stores alone -/

theorem told (serves : cluster.Serves node settings table snapshot name user)
    (events : List Event) : (cluster.told events).Serves node settings table snapshot name user :=
  ⟨serves.current, serves.answers, serves.entries, serves.known, serves.coherent⟩

theorem answered (serves : cluster.Serves node settings table snapshot name user)
    (storeCall : StoreCall) (answer : Except ServiceError storeCall.Answer) :
    (cluster.answered storeCall answer).Serves node settings table snapshot name user :=
  ⟨serves.current, serves.answers, serves.entries, serves.known, serves.coherent⟩

/-! ## Entries -/

theorem reads (serves : cluster.Serves node settings table snapshot name user) :
    cluster.Reads node table :=
  ⟨serves.answers, serves.entries⟩

theorem call_findUser (serves : cluster.Serves node settings table snapshot name user) :
    operate node (.call (.findUser (Principal.locator settings name))) cluster =
      (.ok (some user),
        cluster.answered (.findUser (Principal.locator settings name)) (.ok (some user))) := by
  rw [operate_call, serves.reads.call_findUser, serves.known]

/-- A search leaves everything as it is. -/
theorem searchEntries (serves : cluster.Serves node settings table snapshot name user)
    (space : String) (filters : List String) :
    Cluster.searchEntries (cluster.nodes node).wiring.entries space filters cluster =
      (.ok (table.search space filters), cluster) := by
  simp only [Cluster.searchEntries, bind, StateT.bind, get, getThe, MonadStateOf.get, StateT.get,
    pure, serves.entries]
  rfl

/-! ## Grants -/

/-- A cache may be replaced by one that holds no other grants for the user. -/
theorem putCache {cache : GrantCache}
    (serves : cluster.Serves node settings table snapshot name user)
    (coherent : ∀ grants, cache.get snapshot.revision name = some grants →
      grants = Resolution.grants snapshot user settings.defaultRole) :
    (Cluster.putCache (cluster.nodes node).wiring.cache cache cluster).2.Serves node settings table
      snapshot name user := by
  have replaced := cacheStores_putCache (cluster.nodes node).wiring.cache cache cluster
  refine ⟨serves.current, fun kind => ?_, serves.entries, serves.known,
    .inr ⟨cache, congrArg Switched.store replaced, coherent⟩⟩
  have sameFaults := congrFun (congrArg Switched.faults replaced) kind
  have answers := serves.answers kind
  cases kind with
  | cacheGet | cachePut | cacheClear => exact sameFaults.trans answers
  | _ => exact answers

/-- The node goes on serving the user when the resolved grants are cached. -/
theorem call_cachePut {cache : GrantCache} (caches : settings.cacheSeconds ≠ 0)
    (serves : cluster.Serves node settings table snapshot name user)
    (isCache : (cluster.cacheStores (cluster.nodes node).wiring.cache).store = .memory cache) :
    ∃ after, operate node (.call (.cachePut snapshot.revision name
        (Resolution.grants snapshot user settings.defaultRole) settings.cacheSeconds)) cluster =
        (.ok (), after) ∧
      after.Serves node settings table snapshot name user := by
  rw [serves.reads.call_cachePut isCache]
  refine ⟨_, rfl, (serves.putCache fun grants found => ?_).answered _ _⟩
  rw [GrantCache.get, GrantCache.put, if_neg caches, Std.ExtTreeMap.getElem?_insert_self] at found
  exact (Option.some.inj found).symm

/-- The grants of the served user come from the cache or are resolved and cached. -/
theorem cached (serves : cluster.Serves node settings table snapshot name user)
    (caches : settings.cacheSeconds ≠ 0) :
    ∃ after, operate node (Principal.cached settings snapshot name user) cluster =
        (.ok (Resolution.grants snapshot user settings.defaultRole), after) ∧
      after.Serves node settings table snapshot name user := by
  obtain ⟨cache, isCache, coherent⟩ := serves.coherent.resolve_left caches
  rw [Principal.cached, operate_bind_of_ok (serves.reads.call_cacheGet isCache _ _)]
  cases found : cache.get snapshot.revision name with
  | some grants =>
      obtain rfl := coherent grants found
      exact ⟨_, operate_pure _, serves.answered _ _⟩
  | none =>
      obtain ⟨after, put, servesAfter⟩ := call_cachePut caches ((serves.answered _ _).told _) isCache
      rw [operate_bind_of_ok Principal.operate_resolve, operate_bind_of_ok put]
      exact ⟨after, operate_pure _, servesAfter⟩

/-- Looking the served user up gives the resolved grants. -/
theorem load (serves : cluster.Serves node settings table snapshot name user) :
    ∃ after, operate node (Principal.load settings name) cluster =
        (.ok ⟨some user, Resolution.grants snapshot user settings.defaultRole⟩, after) ∧
      after.Serves node settings table snapshot name user := by
  by_cases uncached : settings.cacheSeconds = 0
  · rw [Principal.operate_load_uncached uncached serves.call_findUser, serves.current]
    exact ⟨_, rfl, (serves.answered _ _).told _⟩
  · obtain ⟨after, ran, servesAfter⟩ := (serves.answered _ _).cached uncached
    rw [Principal.load, operate_bind_of_ok operate_current, operate_bind_of_ok serves.call_findUser]
    simp only [serves.current, uncached, if_false]
    rw [operate_bind_of_ok ran]
    exact ⟨after, operate_pure _, servesAfter⟩

end Serves

end Cluster

end AccessControl
