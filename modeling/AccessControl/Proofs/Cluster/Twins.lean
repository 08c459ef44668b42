import AccessControl.Proofs.Cluster.Failure
import AccessControl.Proofs.Protocol

/-!
# Clusters that differ in their caches

Twins are clusters that work with the same entries, published documents and snapshots, and differ in
what is cached at most; the nodes of the second one do not cache.  An operation that asks for no cached
grants is answered alike by twins, and leaves twins behind.
-/

namespace AccessControl

namespace Request

/-- Requests other than for cached grants, and other than to cache some. -/
def AvoidsGrants : Request → Prop
  | .call (.cacheGet ..) | .call (.cachePut ..) => False
  | _ => True

/-- Requests that have nothing to do with the cache. -/
def AvoidsCache : Request → Prop
  | .call (.cacheGet ..) | .call (.cachePut ..) | .call .cacheClear => False
  | _ => True

theorem AvoidsCache.avoidsGrants {request : Request} (avoids : request.AvoidsCache) :
    request.AvoidsGrants := by
  cases request with
  | call storeCall =>
      cases storeCall with
      | cacheGet | cachePut => exact avoids
      | _ => trivial
  | _ => trivial

/-- Requests that are up to the stores, or that change nothing at all. -/
def Inquires : Request → Prop
  | .current | .note _ | .call _ => True
  | _ => False

end Request

theorem Program.run_ask {σ α : Type} (step : (request : Request) → σ → request.Answer × σ)
    (request : Request) (next : request.Answer → Program α) (state : σ) :
    (Program.ask request next).run step state =
      (next (step request state).1).run step (step request state).2 :=
  rfl

namespace Cluster

variable {α : Type} {node : Nat} {cluster one other : Cluster} {wiring : Wiring} {table : EntryTable}
  {documents : Dict String Json} {operation : Operation α} {allowed : Request → Prop}
  {settings : Settings} {user : String}

/-! ## What operations ask for -/

theorem asksOnly_reload (managementSpace : String) :
    (reload managementSpace).AsksOnly Request.AvoidsGrants := by
  have loading {β : Type} (space subpath : String) (type : ResourceType) (decoder : Decoder β)
      (isActive : β → Bool) :
      (Reload.loadRecords space subpath type decoder isActive).AsksOnly Request.AvoidsGrants :=
    .bind (.call trivial) fun _ => .ofExcept _
  rw [Reload.reload_eq]
  refine .exclusively trivial trivial (.bind ?_ fun snapshot => ?_)
  · refine .bind (.request trivial) fun _ => .bind (.call trivial) fun _ => ?_
    refine .bind (loading ..) fun _ => .bind (loading ..) fun _ => .bind (loading ..) fun _ => ?_
    exact .bind (.request trivial) fun _ => .pure _
  · refine .bind (.call trivial) fun _ => .bind (.call trivial) fun _ => ?_
    refine .bind (.request trivial) fun _ => .bind (.request trivial) fun _ => ?_
    refine .bind (.request trivial) fun cleared => ?_
    cases cleared with
    | ok _ => exact .pure _
    | error error => exact .bind (.request trivial) fun _ => .pure _

theorem asksOnly_adopt : adopt.AsksOnly Request.AvoidsCache := by
  refine .bind (.call trivial) fun published => ?_
  cases published with
  | none => exact .pure _
  | some document =>
      cases decoded : Snapshot.decoder document with
      | error cause =>
          simp only [decoded]
          exact .ofExcept (.error _)
      | ok snapshot =>
          simp only [decoded]
          refine .exclusively trivial trivial (.bind (.request trivial) fun current => ?_)
          split
          · exact .pure _
          · split
            · exact .bind (.request trivial) fun _ => .pure _
            · exact .bind (.request trivial) fun _ => .bind (.request trivial) fun _ => .pure _

theorem asksOnly_resolve {snapshot : Snapshot} {record : User} :
    (Principal.resolve settings snapshot record).AsksOnly Request.Inquires :=
  .bind (.notes (fun _ => trivial) _) fun _ => .pure _

theorem asksOnly_load : (Principal.load settings user).AsksOnly Request.Inquires := by
  refine .bind (.request trivial) fun snapshot => .bind (.call trivial) fun found => ?_
  cases found with
  | none => exact .pure _
  | some record =>
      dsimp only
      split
      · exact .bind asksOnly_resolve fun _ => .pure _
      · refine .bind (.bind (.call trivial) fun cached => ?_) fun _ => .pure _
        cases cached with
        | some grants => exact .pure _
        | none => exact .bind asksOnly_resolve fun _ => .bind (.call trivial) fun _ => .pure _

theorem asksOnly_checkAccess {request : AccessRequest} :
    (checkAccess settings request).AsksOnly Request.Inquires := by
  refine .bind ?_ fun granted => ?_
  · rw [aclAllows]
    cases request.aclLocator? with
    | none => exact .pure _
    | some locator =>
        refine .bind (.call trivial) fun found => ?_
        cases found <;> exact .pure _
  · cases granted with
    | true => exact .pure _
    | false =>
        refine .bind asksOnly_load fun principal => ?_
        split
        · exact .bind (.notes (fun _ => trivial) _) fun _ => .pure _
        · exact .pure _

/-- Whatever each step of a node keeps that an operation may ask for, the operation keeps. -/
theorem operate_keeps_of_asksOnly (relation : Cluster → Cluster → Prop)
    (refl : ∀ cluster, relation cluster cluster)
    (trans : ∀ {before middle after}, relation before middle → relation middle after →
      relation before after)
    (stepped : ∀ request cluster, allowed request → relation cluster (step node request cluster).2)
    (asks : operation.AsksOnly allowed) (cluster : Cluster) :
    relation cluster (operate node operation cluster).2 := by
  have conforms := asks.conforms
  rw [Operation.Conforms] at conforms
  rw [operate]
  generalize operation.run = program at conforms ⊢
  induction program generalizing cluster with
  | done result => exact refl cluster
  | ask request next ih => exact trans (stepped request cluster conforms.1) (ih _ _ (conforms.2 _))

/-- An operation that only inquires is a change of stores. -/
theorem storeChange_operate (node : Nat) (asks : operation.AsksOnly Request.Inquires)
    (cluster : Cluster) :
    StoreChange cluster (operate node operation cluster).2 := by
  refine operate_keeps_of_asksOnly StoreChange .refl .trans ?_ asks cluster
  intro request cluster inquires
  cases request with
  | current => exact .refl cluster
  | note event => exact ⟨rfl, rfl, rfl, rfl, rfl, rfl⟩
  | call storeCall => exact storeChange_call node storeCall cluster
  | _ => cases inquires

/-- An operation that avoids the cache leaves it as it is. -/
theorem caches_operate (node : Nat) (asks : operation.AsksOnly Request.AvoidsCache) {number : Nat}
    {held : GrantCache} (caches : cluster.Caches number held) :
    (operate node operation cluster).2.Caches number held := by
  refine operate_keeps_of_asksOnly
    (fun before after => before.Caches number held → after.Caches number held) (fun _ => id)
    (fun first second caches => second (first caches)) ?_ asks cluster caches
  intro request cluster avoids caches
  have after := caches.step node request
  cases request with
  | call storeCall =>
      have reads : ¬(storeCall.kind = .cachePut ∨ storeCall.kind = .cacheClear) := by
        cases storeCall with
        | cachePut | cacheClear => cases avoids
        | _ => exact not_or.mpr ⟨nofun, nofun⟩
      change (call node storeCall cluster).2.Caches number (Made.onCache _ _ _ _) at after
      rwa [Made.onCache_of_reads fun _ => reads] at after
  | _ => exact after

/-! ## Working nodes -/

/-- Whether all nodes share stores that are kept in memory and answer, with the entries and the published
documents. -/
structure Works (cluster : Cluster) (wiring : Wiring) (table : EntryTable)
    (documents : Dict String Json) : Prop where
  wired : ∀ node, (cluster.nodes node).wiring = wiring
  answers : ∀ kind, cluster.fault? wiring kind = none
  entries : (cluster.entryStores wiring.entries).store = .memory table
  shelves : cluster.Shelves wiring.snapshots documents
  caches : ∃ held, cluster.Caches wiring.cache held

theorem entryStores_step (node : Nat) (request : Request) (cluster : Cluster) :
    (step node request cluster).2.entryStores = cluster.entryStores := by
  cases request with
  | call storeCall => exact (storeChange_call node storeCall cluster).entryStores
  | _ => rfl

/-- What any request leaves of the stores. -/
theorem Works.step (works : cluster.Works wiring table documents) (node : Nat) (request : Request) :
    (step node request cluster).2.Works wiring table
      ((Made.ofRequest? request (step node request cluster).1).elim documents fun made =>
        made.onDocuments wiring wiring.snapshots documents) where
  wired other := by rw [(continues_step node request cluster).wiring, works.wired]
  answers kind := by rw [(continues_step node request cluster).faults, works.answers]
  entries := by rw [entryStores_step, works.entries]
  shelves := by
    have shelves := works.shelves.step node request
    rwa [works.wired] at shelves
  caches := by
    obtain ⟨held, caches⟩ := works.caches
    exact ⟨_, caches.step node request⟩

/-- What a question about a user leaves of the stores. -/
theorem Works.of_gains {after : Cluster} (works : cluster.Works wiring table documents)
    (gains : GainsGrants settings node user cluster after) (continues : Continues cluster after) :
    after.Works wiring table documents where
  wired other := by rw [gains.wiring, works.wired]
  answers kind := by rw [continues.faults, works.answers]
  entries := by rw [gains.entries, works.entries]
  shelves := gains.documents _ .memory _ works.shelves
  caches := by
    obtain ⟨held, caches⟩ := works.caches
    rcases gains.caches _ held caches with same | ⟨-, _, -, gained⟩
    · exact ⟨held, same⟩
    · exact ⟨_, gained⟩

/-- What other entries leave of the stores. -/
theorem Works.putEntries (works : cluster.Works wiring table documents) (changed : EntryTable) :
    (putEntries wiring.entries changed cluster).2.Works wiring changed documents where
  wired := works.wired
  answers kind := by rw [fault?_putEntries, works.answers]
  entries := congrArg Switched.store (if_pos rfl)
  shelves := works.shelves
  caches := works.caches

theorem listEntries_of_memory (isMemory : (cluster.entryStores wiring.entries).store = .memory table)
    (space subpath : String) (type : ResourceType) :
    listEntries wiring.entries space subpath type cluster =
      (.ok (table.activeEntries space subpath type), cluster) := by
  simp only [listEntries, bind, StateT.bind, get, getThe, MonadStateOf.get, StateT.get, pure, isMemory]
  rfl

/-- A listing that was set comes before the entries of the store. -/
theorem callStore_loadActiveEntries
    (isMemory : (cluster.entryStores wiring.entries).store = .memory table) (space subpath : String)
    (type : ResourceType) :
    (callStore wiring (.loadActiveEntries space subpath type) cluster).1 =
      .ok ((cluster.listings wiring.entries)[subpath]?.getD
        (table.activeEntries space subpath type)) := by
  simp only [callStore, bind, StateT.bind, get, getThe, MonadStateOf.get, StateT.get, pure]
  cases (cluster.listings wiring.entries)[subpath]? with
  | some listing => rfl
  | none => exact congrArg Prod.fst (listEntries_of_memory isMemory space subpath type)

/-! ## Twins -/

/-- Whether two clusters work with the same, apart from what is cached, and the nodes of the second one
do not cache. -/
structure Twins (wiring : Wiring) (table : EntryTable) (one other : Cluster) : Prop where
  works : ∃ documents, one.Works wiring table documents ∧ other.Works wiring table documents
  settings : ∀ node,
    (other.nodes node).settings = { (one.nodes node).settings with cacheSeconds := 0 }
  snapshots : other.snapshots = one.snapshots
  listings : other.listings = one.listings
  editions : other.editions = one.editions
  drawn : other.drawn = one.drawn

namespace Twins

/-- Twins answer calls alike that are not about cached grants. -/
theorem call_eq (twins : Twins wiring table one other) {storeCall : StoreCall}
    (avoids : Request.AvoidsGrants (.call storeCall)) :
    (call node storeCall other).1 = (call node storeCall one).1 := by
  obtain ⟨documents, works, worksOther⟩ := twins.works
  have answers := works.answers storeCall.kind
  have answersOther := worksOther.answers storeCall.kind
  rw [← works.wired node] at answers
  rw [← worksOther.wired node] at answersOther
  rw [call_of_no_fault _ answers, call_of_no_fault _ answersOther, works.wired, worksOther.wired]
  cases storeCall with
  | loadActiveEntries space subpath type =>
      rw [callStore_loadActiveEntries works.entries, callStore_loadActiveEntries worksOther.entries,
        twins.listings]
  | findUser locator | findEntry locator =>
      rw [callStore, findIn_of_memory works.entries, findIn_of_memory worksOther.entries]
  | prepareIndex =>
      obtain ⟨_, isMemory⟩ := works.shelves
      obtain ⟨_, isMemoryOther⟩ := worksOther.shelves
      rw [callStore, prepareIndex_of_memory isMemory, prepareIndex_of_memory isMemoryOther]
  | persistSnapshot name document =>
      obtain ⟨_, isMemory⟩ := works.shelves
      obtain ⟨_, isMemoryOther⟩ := worksOther.shelves
      rw [callStore, publish_of_memory isMemory, publish_of_memory isMemoryOther]
  | fetchSnapshot name =>
      rw [callStore, works.shelves.published, worksOther.shelves.published]
  | cacheClear =>
      obtain ⟨_, caches⟩ := works.caches
      obtain ⟨_, cachesOther⟩ := worksOther.caches
      rw [callStore, clearCache_of_memory caches, clearCache_of_memory cachesOther]
  | cacheGet | cachePut => cases avoids

theorem step_eq (twins : Twins wiring table one other) {request : Request}
    (avoids : request.AvoidsGrants) : (step node request other).1 = (step node request one).1 := by
  cases request with
  | current => exact congrFun twins.snapshots node
  | edition => rw [step_edition, step_edition, twins.editions, twins.drawn]
  | call storeCall => exact twins.call_eq avoids
  | _ => rfl

theorem drawn_step (twins : Twins wiring table one other) (request : Request) :
    (step node request other).2.drawn = (step node request one).2.drawn := by
  cases request with
  | edition => exact congrArg (· + 1) twins.drawn
  | call storeCall =>
      exact (storeChange_call ..).drawn.trans (twins.drawn.trans (storeChange_call ..).drawn.symm)
  | _ => exact twins.drawn

theorem snapshots_step (twins : Twins wiring table one other) (request : Request) :
    (step node request other).2.snapshots = (step node request one).2.snapshots := by
  by_cases installs : ∃ snapshot, request = .install snapshot
  · obtain ⟨snapshot, rfl⟩ := installs
    rw [snapshots_install, snapshots_install, twins.snapshots]
  · rw [Cluster.snapshots_step (not_exists.mp installs), Cluster.snapshots_step (not_exists.mp installs),
      twins.snapshots]

/-- Twins stay twins when both are asked the same. -/
theorem step (twins : Twins wiring table one other) {request : Request}
    (avoids : request.AvoidsGrants) :
    Twins wiring table (step node request one).2 (step node request other).2 where
  works := by
    obtain ⟨documents, works, worksOther⟩ := twins.works
    have after := worksOther.step node request
    rw [twins.step_eq avoids] at after
    exact ⟨_, works.step node request, after⟩
  settings other := by
    rw [(continues_step ..).settings, (continues_step ..).settings, twins.settings]
  snapshots := twins.snapshots_step request
  listings := by rw [(continues_step ..).listings, (continues_step ..).listings, twins.listings]
  editions := by rw [(continues_step ..).editions, (continues_step ..).editions, twins.editions]
  drawn := twins.drawn_step request

/-- What asks for no cached grants is answered alike by twins, and leaves twins behind. -/
theorem operate (twins : Twins wiring table one other) (node : Nat)
    (asks : operation.AsksOnly Request.AvoidsGrants) :
    (operate node operation other).1 = (operate node operation one).1 ∧
      Twins wiring table (operate node operation one).2 (operate node operation other).2 := by
  have conforms := asks.conforms
  rw [Operation.Conforms] at conforms
  rw [Cluster.operate, Cluster.operate]
  generalize operation.run = program at conforms ⊢
  induction program generalizing one other with
  | done result => exact ⟨rfl, twins⟩
  | ask request next ih =>
      rw [Program.run_ask, Program.run_ask, twins.step_eq conforms.1]
      exact ih _ (twins.step conforms.1) (conforms.2 _)

/-- Twins stay twins when both are asked about a user. -/
theorem of_gains {oneAfter otherAfter : Cluster} {otherSettings : Settings}
    (twins : Twins wiring table one other) (gains : GainsGrants settings node user one oneAfter)
    (otherGains : GainsGrants otherSettings node user other otherAfter)
    (change : StoreChange one oneAfter) (otherChange : StoreChange other otherAfter) :
    Twins wiring table oneAfter otherAfter where
  works := by
    obtain ⟨documents, works, otherWorks⟩ := twins.works
    exact ⟨documents, works.of_gains gains change.continues,
      otherWorks.of_gains otherGains otherChange.continues⟩
  settings node := by rw [change.nodes, otherChange.nodes, twins.settings]
  snapshots := by rw [change.snapshots, otherChange.snapshots, twins.snapshots]
  listings := by rw [change.listings, otherChange.listings, twins.listings]
  editions := by rw [change.editions, otherChange.editions, twins.editions]
  drawn := by rw [change.drawn, otherChange.drawn, twins.drawn]

/-- Twins stay twins when the entries of both change alike. -/
theorem putEntries (twins : Twins wiring table one other) (changed : EntryTable) :
    Twins wiring changed (Cluster.putEntries wiring.entries changed one).2
      (Cluster.putEntries wiring.entries changed other).2 where
  works := by
    obtain ⟨documents, works, otherWorks⟩ := twins.works
    exact ⟨documents, works.putEntries changed, otherWorks.putEntries changed⟩
  settings := twins.settings
  snapshots := twins.snapshots
  listings := twins.listings
  editions := twins.editions
  drawn := twins.drawn

end Twins

end Cluster

end AccessControl
