import AccessControl.Proofs.Cluster.Frame

/-!
# What stores hold

The content of a store that is kept in memory follows from the calls that were made to it: only
publishing changes the published documents, and only caching and clearing change the cached grants.
Calls that fail change neither.
-/

namespace AccessControl

/-- Grants that are found after others were cached were found before, or are the others. -/
theorem GrantCache.of_get_put {cache : GrantCache} {revision under : Uuid} {user name : String}
    {grants put : Grants} {seconds : Nat}
    (found : (cache.put under name put seconds).get revision user = some grants) :
    cache.get revision user = some grants ∨ under = revision ∧ name = user ∧ put = grants := by
  unfold GrantCache.put at found
  split at found
  · exact .inl found
  · rw [GrantCache.get, Std.ExtTreeMap.getElem?_insert] at found
    split at found
    · next same =>
      obtain ⟨rfl, rfl⟩ := CacheKey.mk.inj (Std.LawfulEqCmp.eq_of_compare same)
      exact .inr ⟨rfl, rfl, Option.some.inj found⟩
    · exact .inl found

/-- Grants that are left were there before others ran out. -/
theorem GrantCache.of_get_left {cache : GrantCache} {isLeft : CacheKey → Bool} {revision : Uuid}
    {user : String} {grants : Grants} (found : (cache.left isLeft).get revision user = some grants) :
    cache.get revision user = some grants := by
  rw [GrantCache.get, GrantCache.left, Std.ExtTreeMap.getElem?_filter', Option.filter_eq_some_iff]
    at found
  exact found.1

namespace Cluster

variable {α : Type} {node number : Nat} {cluster before after : Cluster} {wiring : Wiring}
  {documents : Dict String Json} {cache : GrantCache} {calls : List Made} {operation : Operation α}
  {answer : Except ServiceError α}

/-! ## Published documents -/

/-- Whether a store of published snapshots is kept in memory and holds the documents.  Whether its
index was asked for is left open. -/
def Shelves (cluster : Cluster) (number : Nat) (documents : Dict String Json) : Prop :=
  ∃ indexPrepared, (cluster.snapshotStores number).store = .memory ⟨documents, indexPrepared⟩

/-- The documents of a store after a call of a node with the wiring. -/
def Made.onDocuments (wiring : Wiring) (number : Nat) :
    Made → Dict String Json → Dict String Json
  | ⟨.persistSnapshot name document, .ok _⟩, documents =>
    if wiring.snapshots = number then documents.insert name document else documents
  | _, documents => documents

theorem Made.onDocuments_error (storeCall : StoreCall) (error : ServiceError) :
    Made.onDocuments wiring number ⟨storeCall, .error error⟩ documents = documents := by
  cases storeCall <;> rfl

theorem shelves_putShelf {shelf : SnapshotShelf} :
    (putShelf number shelf cluster).2.Shelves number shelf.documents :=
  ⟨shelf.indexPrepared, congrArg Switched.store (if_pos rfl)⟩

/-- Only making its index and publishing in it change a store of published snapshots. -/
theorem tolerates_sameShelf {kind : CallKind} (reads : wiring.snapshots = number →
      ¬(kind = .prepareIndex ∨ kind = .persistSnapshot)) :
    Tolerates (fun before after => after.snapshotStores number = before.snapshotStores number) wiring
      kind where
  refl _ := rfl
  trans first second := second.trans first
  keyspace _ _ := rfl
  database _ _ := rfl
  told _ _ := rfl
  shelf writes _ _ := if_neg fun same => reads same.symm writes
  cache _ _ _ := rfl

theorem Made.onDocuments_of_reads {made : Made}
    (reads : wiring.snapshots = number → made.call.kind ≠ .persistSnapshot) :
    made.onDocuments wiring number documents = documents := by
  obtain ⟨storeCall, answer⟩ := made
  cases storeCall with
  | persistSnapshot name document =>
      cases answer with
      | error error => rfl
      | ok _ => exact if_neg fun own => reads own rfl
  | _ => rfl

/-- Only publishing under a name changes the document under it. -/
theorem Made.getElem?_onDocuments_of_ne {made : Made} {name : String}
    (other : ∀ document, made ≠ ⟨.persistSnapshot name document, .ok ()⟩) :
    (made.onDocuments wiring number documents)[name]? = documents[name]? := by
  obtain ⟨storeCall, answer⟩ := made
  cases storeCall with
  | persistSnapshot under document =>
      cases answer with
      | error error => rfl
      | ok _ =>
          have differs : under ≠ name := by
            rintro rfl
            exact other document rfl
          simp only [Made.onDocuments, apply_ite (fun held : Dict String Json => held[name]?)]
          rw [Std.ExtTreeMap.getElem?_insert]
          simp [differs]
  | _ => rfl

theorem prepareIndex_of_memory {shelf : SnapshotShelf}
    (isMemory : (cluster.snapshotStores number).store = .memory shelf) :
    prepareIndex number cluster = (.ok (), (putShelf number shelf.prepareIndex cluster).2) := by
  simp only [prepareIndex, bind, StateT.bind, get, getThe, MonadStateOf.get, StateT.get, pure,
    isMemory]
  rfl

theorem publish_of_memory {shelf : SnapshotShelf} {name : String} {document : Json}
    (isMemory : (cluster.snapshotStores number).store = .memory shelf) :
    publish number name document cluster =
      (.ok (), (putShelf number (shelf.persist name document) cluster).2) := by
  simp only [publish, bind, StateT.bind, get, getThe, MonadStateOf.get, StateT.get, pure, isMemory]
  rfl

/-- What a call leaves of the documents. -/
theorem Shelves.callStore (shelves : cluster.Shelves number documents) (storeCall : StoreCall) :
    (callStore wiring storeCall cluster).2.Shelves number
      (Made.onDocuments wiring number ⟨storeCall, (callStore wiring storeCall cluster).1⟩
        documents) := by
  obtain ⟨indexPrepared, isMemory⟩ := shelves
  by_cases writes : wiring.snapshots = number ∧
      (storeCall.kind = .prepareIndex ∨ storeCall.kind = .persistSnapshot)
  · obtain ⟨rfl, writes⟩ := writes
    cases storeCall with
    | prepareIndex =>
        rw [Cluster.callStore, prepareIndex_of_memory isMemory]
        exact shelves_putShelf
    | persistSnapshot name document =>
        rw [Cluster.callStore, publish_of_memory isMemory, Made.onDocuments, if_pos rfl]
        exact shelves_putShelf
    | _ => simp [StoreCall.kind] at writes
  · have reads (own : wiring.snapshots = number) :
        ¬(storeCall.kind = .prepareIndex ∨ storeCall.kind = .persistSnapshot) :=
      fun is => writes ⟨own, is⟩
    rw [Made.onDocuments_of_reads fun own is => reads own (.inr is), Shelves,
      (tolerates_sameShelf reads).callStore cluster]
    exact ⟨indexPrepared, isMemory⟩

theorem Shelves.call (shelves : cluster.Shelves number documents) (node : Nat)
    (storeCall : StoreCall) :
    (call node storeCall cluster).2.Shelves number
      (Made.onDocuments (cluster.nodes node).wiring number
        ⟨storeCall, (call node storeCall cluster).1⟩ documents) := by
  cases fault : cluster.fault? (cluster.nodes node).wiring storeCall.kind with
  | some reason =>
      rw [call_of_fault storeCall fault, Made.onDocuments_error]
      exact shelves
  | none =>
      rw [call_of_no_fault storeCall fault]
      exact shelves.callStore storeCall

/-- What any request leaves of the documents. -/
theorem Shelves.step (shelves : cluster.Shelves number documents) (node : Nat) (request : Request) :
    (step node request cluster).2.Shelves number
      ((Made.ofRequest? request (step node request cluster).1).elim documents fun made =>
        made.onDocuments (cluster.nodes node).wiring number documents) := by
  cases request with
  | call storeCall => exact shelves.call node storeCall
  | _ => exact shelves

theorem Shelves.published (shelves : cluster.Shelves number documents) (name : String) :
    (published number name cluster).1 = .ok documents[name]? := by
  obtain ⟨indexPrepared, isMemory⟩ := shelves
  simp only [Cluster.published, bind, StateT.bind, get, getThe, MonadStateOf.get, StateT.get, pure,
    isMemory]
  rfl

/-- What is fetched from a shelf. -/
theorem Shelves.of_fetch {name : String} {published : Option Json}
    (shelves : cluster.Shelves (cluster.nodes node).wiring.snapshots documents)
    (fetched : (Cluster.call node (.fetchSnapshot name) cluster).1 = .ok published) :
    published = documents[name]? := by
  cases fault : cluster.fault? (cluster.nodes node).wiring .fetchSnapshot with
  | some reason =>
      rw [call_of_fault (.fetchSnapshot name) fault] at fetched
      cases fetched
  | none =>
      rw [call_of_no_fault (.fetchSnapshot name) fault] at fetched
      exact (Except.ok.inj ((shelves.published name).symm.trans fetched)).symm

/-- The generation that is published in a store, zero if none is. -/
def publishedGeneration (cluster : Cluster) (number : Nat) : Nat :=
  Snapshot.publishedGeneration (published number Snapshot.publishedName cluster).1.toOption.join

theorem Shelves.publishedGeneration (shelves : cluster.Shelves number documents) :
    cluster.publishedGeneration number =
      Snapshot.publishedGeneration documents[Snapshot.publishedName]? := by
  rw [Cluster.publishedGeneration, shelves.published]
  rfl

/-! ## Cached grants -/

/-- Whether a cache is kept in memory and holds the grants. -/
def Caches (cluster : Cluster) (number : Nat) (cache : GrantCache) : Prop :=
  (cluster.cacheStores number).store = .memory cache

/-- The cached grants of a store after a call of a node with the wiring. -/
def Made.onCache (wiring : Wiring) (number : Nat) : Made → GrantCache → GrantCache
  | ⟨.cachePut revision user grants seconds, .ok _⟩, cache =>
    if wiring.cache = number then cache.put revision user grants seconds else cache
  | ⟨.cacheClear, .ok _⟩, cache => if wiring.cache = number then ∅ else cache
  | _, cache => cache

theorem Made.onCache_error (storeCall : StoreCall) (error : ServiceError) :
    Made.onCache wiring number ⟨storeCall, .error error⟩ cache = cache := by
  cases storeCall <;> rfl

theorem Made.onCache_of_reads {made : Made} (reads : wiring.cache = number →
      ¬(made.call.kind = .cachePut ∨ made.call.kind = .cacheClear)) :
    made.onCache wiring number cache = cache := by
  obtain ⟨storeCall, answer⟩ := made
  cases storeCall with
  | cachePut revision user grants seconds =>
      cases answer with
      | error error => rfl
      | ok _ => exact if_neg fun own => reads own (.inl rfl)
  | cacheClear =>
      cases answer with
      | error error => rfl
      | ok _ => exact if_neg fun own => reads own (.inr rfl)
  | _ => rfl

theorem caches_putCache : (putCache number cache cluster).2.Caches number cache :=
  congrArg Switched.store (if_pos rfl)

/-- Only caching in it and clearing it change a cache. -/
theorem tolerates_sameCache {kind : CallKind} (reads : wiring.cache = number →
      ¬(kind = .cachePut ∨ kind = .cacheClear)) :
    Tolerates (fun before after => after.cacheStores number = before.cacheStores number) wiring
      kind where
  refl _ := rfl
  trans first second := second.trans first
  keyspace _ _ := rfl
  database _ _ := rfl
  told _ _ := rfl
  shelf _ _ _ := rfl
  cache writes _ _ := if_neg fun same => reads same.symm writes

theorem cacheGrants_of_memory {revision : Uuid} {user : String} {grants : Grants} {seconds : Nat}
    (caches : cluster.Caches number cache) :
    cacheGrants number revision user grants seconds cluster =
      (.ok (), (putCache number (cache.put revision user grants seconds) cluster).2) := by
  rw [Caches] at caches
  simp only [cacheGrants, bind, StateT.bind, get, getThe, MonadStateOf.get, StateT.get, pure, caches]
  rfl

theorem clearCache_of_memory (caches : cluster.Caches number cache) :
    clearCache number cluster = (.ok (), (putCache number ∅ cluster).2) := by
  rw [Caches] at caches
  simp only [clearCache, bind, StateT.bind, get, getThe, MonadStateOf.get, StateT.get, pure, caches]
  rfl

/-- What a call leaves of the cached grants. -/
theorem Caches.callStore (caches : cluster.Caches number cache) (storeCall : StoreCall) :
    (callStore wiring storeCall cluster).2.Caches number
      (Made.onCache wiring number ⟨storeCall, (callStore wiring storeCall cluster).1⟩ cache) := by
  by_cases writes : wiring.cache = number ∧
      (storeCall.kind = .cachePut ∨ storeCall.kind = .cacheClear)
  · obtain ⟨rfl, writes⟩ := writes
    cases storeCall with
    | cachePut revision user grants seconds =>
        rw [Cluster.callStore, cacheGrants_of_memory caches, Made.onCache, if_pos rfl]
        exact caches_putCache
    | cacheClear =>
        rw [Cluster.callStore, clearCache_of_memory caches, Made.onCache, if_pos rfl]
        exact caches_putCache
    | _ => simp [StoreCall.kind] at writes
  · have reads (own : wiring.cache = number) :
        ¬(storeCall.kind = .cachePut ∨ storeCall.kind = .cacheClear) :=
      fun is => writes ⟨own, is⟩
    rw [Made.onCache_of_reads reads, Caches, (tolerates_sameCache reads).callStore cluster]
    exact caches

theorem Caches.call (caches : cluster.Caches number cache) (node : Nat) (storeCall : StoreCall) :
    (call node storeCall cluster).2.Caches number
      (Made.onCache (cluster.nodes node).wiring number
        ⟨storeCall, (call node storeCall cluster).1⟩ cache) := by
  cases fault : cluster.fault? (cluster.nodes node).wiring storeCall.kind with
  | some reason =>
      rw [call_of_fault storeCall fault, Made.onCache_error]
      exact caches
  | none =>
      rw [call_of_no_fault storeCall fault]
      exact caches.callStore storeCall

/-- What any request leaves of the cached grants. -/
theorem Caches.step (caches : cluster.Caches number cache) (node : Nat) (request : Request) :
    (step node request cluster).2.Caches number
      ((Made.ofRequest? request (step node request cluster).1).elim cache fun made =>
        made.onCache (cluster.nodes node).wiring number cache) := by
  cases request with
  | call storeCall => exact caches.call node storeCall
  | _ => exact caches

/-- Grants that are found in a cache after a call were found there before, or the call has cached
them. -/
theorem Made.of_get_onCache {made : Made} {revision : Uuid} {user : String} {grants : Grants}
    (held : (made.onCache wiring number cache).get revision user = some grants) :
    cache.get revision user = some grants ∨
      ∃ seconds, made = ⟨.cachePut revision user grants seconds, .ok ()⟩ := by
  obtain ⟨storeCall, answer⟩ := made
  cases storeCall with
  | cachePut under name put seconds =>
      cases answer with
      | error error => exact .inl held
      | ok _ =>
          simp only [Made.onCache] at held
          split at held
          · rcases GrantCache.of_get_put held with before | ⟨rfl, rfl, rfl⟩
            · exact .inl before
            · exact .inr ⟨seconds, rfl⟩
          · exact .inl held
  | cacheClear =>
      cases answer with
      | error error => exact .inl held
      | ok _ =>
          simp only [Made.onCache] at held
          split at held
          · simp [GrantCache.get] at held
          · exact .inl held
  | _ => exact .inl held

/-- Calls other than to cache some do not add grants. -/
theorem get_of_get_foldl_onCache {revision : Uuid} {user : String} {grants : Grants}
    (noPut : ∀ made ∈ calls, made.call.kind ≠ .cachePut)
    (held : (calls.foldl (fun cache made => made.onCache wiring number cache) cache).get revision
      user = some grants) : cache.get revision user = some grants := by
  induction calls generalizing cache with
  | nil => exact held
  | cons made later ih =>
      have noPutNow := noPut made (List.mem_cons_self ..)
      rcases made.of_get_onCache (ih (fun other member => noPut other (.tail _ member)) held) with
        before | ⟨seconds, rfl⟩
      · exact before
      · exact absurd rfl noPutNow

/-- What is found in a cache that is kept in memory. -/
theorem Caches.of_get {revision : Uuid} {user : String} {found : Option Grants}
    (caches : cluster.Caches (cluster.nodes node).wiring.cache cache)
    (asked : (Cluster.call node (.cacheGet revision user) cluster).1 = .ok found) :
    found = cache.get revision user := by
  cases fault : cluster.fault? (cluster.nodes node).wiring .cacheGet with
  | some reason =>
      rw [call_of_fault (.cacheGet revision user) fault] at asked
      cases asked
  | none =>
      rw [call_of_no_fault (.cacheGet revision user) fault] at asked
      rw [Caches] at caches
      simp only [Cluster.callStore, cachedGrants, bind, StateT.bind, get, getThe, MonadStateOf.get,
        StateT.get, pure, caches] at asked
      exact (Except.ok.inj asked).symm

/-! ## Runs -/

/-- What follows call by call from the calls that were made follows so for a whole run. -/
theorem Ran.foldl {σ : Type} (ran : Ran node operation before calls answer after)
    (holds : Cluster → σ → Prop) (effect : Wiring → Made → σ → σ)
    (called : ∀ {cluster content} (storeCall : StoreCall), holds cluster content →
      holds (call node storeCall cluster).2
        (effect (cluster.nodes node).wiring ⟨storeCall, (call node storeCall cluster).1⟩ content))
    (silent : ∀ {cluster content} (request : Request), (∀ storeCall, request ≠ .call storeCall) →
      holds cluster content → holds (step node request cluster).2 content)
    {content : σ} (held : holds before content) :
    holds after (calls.foldl (fun content made => effect (before.nodes node).wiring made content)
      content) := by
  have accounts : Accounts node fun before calls after =>
      (after.nodes node).wiring = (before.nodes node).wiring ∧ ∀ content, holds before content →
        holds after (calls.foldl (fun content made =>
          effect (before.nodes node).wiring made content) content) := {
    refl := fun cluster => ⟨rfl, fun _ => id⟩
    append := fun {before middle after first second} earlier later => by
      refine ⟨later.1.trans earlier.1, fun content held => ?_⟩
      rw [List.foldl_append, ← earlier.1]
      exact later.2 _ (earlier.1 ▸ earlier.2 content held)
    called := fun storeCall cluster =>
      ⟨(continues_step node (.call storeCall) cluster).wiring node, fun _ => called storeCall⟩
    silent := fun request cluster other =>
      ⟨(continues_step node request cluster).wiring node, fun _ => silent request other⟩ }
  exact (ran.accounted accounts).2 content held

/-- What a run leaves of the cached grants follows from its calls. -/
theorem Ran.caches (ran : Ran node operation before calls answer after)
    (caches : before.Caches number cache) :
    after.Caches number (calls.foldl (fun cache made =>
      made.onCache (before.nodes node).wiring number cache) cache) :=
  ran.foldl (fun cluster => cluster.Caches number)
    (fun wiring made => made.onCache wiring number) (fun storeCall held => held.call _ storeCall)
    (fun request silent held => by cases request <;> first | exact held | exact absurd rfl (silent _))
    caches

end Cluster

end AccessControl
