import AccessControl.Proofs.Cluster.Command
import AccessControl.Proofs.Principal
import AccessControl.Proofs.Reload.Adoption
import AccessControl.Proofs.Reload.Run

/-!
# What failures leave behind

Whatever a node is asked to do either ends in a result or leaves the stored entries, the published
documents, the current snapshots and the cached grants as they were.  A denial is an error too, but
by then the grants of the user may have been cached.
-/

namespace AccessControl

namespace Cluster

variable {α β : Type} {node number : Nat} {before middle after cluster : Cluster}
  {settings : Settings} {user : String}

/-! ## Reloading and adopting -/

theorem keepsContents_loadRecords {space subpath : String} {type : ResourceType}
    {decoder : Decoder α} {isActive : α → Bool} :
    KeepsContents (Reload.loadRecords space subpath type decoder isActive) :=
  .bind (.call ⟨nofun, nofun, nofun⟩) fun _ => .ofExcept _

theorem keepsContents_gather (managementSpace : String) :
    KeepsContents (Reload.gather managementSpace) :=
  .bind .current fun _ => .bind (.call ⟨nofun, nofun, nofun⟩) fun _ =>
    .bind keepsContents_loadRecords fun _ => .bind keepsContents_loadRecords fun _ =>
      .bind keepsContents_loadRecords fun _ => .bind .edition fun _ => .pure _

theorem succeeds_finish (snapshot : Snapshot) : Succeeds (Reload.finish snapshot) := by
  refine .bind (.request _) fun _ => .bind (.request _) fun _ => .bind (.request _) fun cleared => ?_
  cases cleared with
  | ok _ => exact .pure _
  | error _ => exact .bind (.request _) fun _ => .pure _

/-- A reload publishes last of all that can fail. -/
theorem failsSafely_reload (managementSpace : String) : FailsSafely (reload managementSpace) := by
  rw [Reload.reload_eq]
  refine .exclusively (.after_keeps (keepsContents_gather _) fun snapshot => ?_)
  exact .after_keeps (.call ⟨nofun, nofun, nofun⟩) fun _ =>
    .before_succeeds (.call _) fun _ => succeeds_finish snapshot

theorem keepsContents_resolve (snapshot : Snapshot) (record : User) :
    KeepsContents (Principal.resolve settings snapshot record) :=
  .bind (.notes _) fun _ => .pure _

theorem keepsContents_aclAllows (request : AccessRequest) : KeepsContents (aclAllows request) := by
  rw [aclAllows]
  cases request.aclLocator? with
  | none => exact .pure _
  | some locator =>
      refine .bind (.call ⟨nofun, nofun, nofun⟩) fun found => ?_
      cases found <;> exact .pure _

/-- Whether a node that keeps its entries in memory finds the record of a user there. -/
def Finds (cluster : Cluster) (node : Nat) (settings : Settings) (user : String) (record : User) :
    Prop :=
  ∀ table, (cluster.entryStores (cluster.nodes node).wiring.entries).store = .memory table →
    table.find User.decoder (Principal.locator settings user) = .ok (some record)

/-- Whether nothing changed, except that the cache of the node may have gained what the record of a
user resolves to under the node's snapshot. -/
structure GainsGrants (settings : Settings) (node : Nat) (user : String) (before after : Cluster) :
    Prop extends SameButCaches before after where
  caches : ∀ number cache, before.Caches number cache → after.Caches number cache ∨
    number = (before.nodes node).wiring.cache ∧ ∃ record, before.Finds node settings user record ∧
      after.Caches number (cache.put (before.snapshots node).revision user
        (Resolution.grants (before.snapshots node) record settings.defaultRole)
        settings.cacheSeconds)

theorem SameContents.gainsGrants (same : SameContents before after) :
    GainsGrants settings node user before after :=
  ⟨same.toSameButCaches, fun number cache held => .inl (same.caches number cache held)⟩

theorem GainsGrants.trans (gains : GainsGrants settings node user before middle)
    (same : SameContents middle after) : GainsGrants settings node user before after := by
  refine ⟨gains.toSameButCaches.trans same.toSameButCaches, fun number cache held => ?_⟩
  refine (gains.caches number cache held).imp (same.caches number cache) ?_
  rintro ⟨own, record, finds, gained⟩
  exact ⟨own, record, finds, same.caches number _ gained⟩

theorem SameContents.trans_gainsGrants (same : SameContents before middle)
    (gains : GainsGrants settings node user middle after) :
    GainsGrants settings node user before after := by
  refine ⟨same.toSameButCaches.trans gains.toSameButCaches, fun number cache held => ?_⟩
  refine (gains.caches number cache (same.caches number cache held)).imp_right ?_
  rintro ⟨own, record, finds, gained⟩
  rw [same.snapshots] at gained
  refine ⟨own.trans (congrArg Wiring.cache (same.wiring node)), record, ?_, gained⟩
  rwa [Finds, same.entries, same.wiring] at finds

theorem finds_of_call {record : User}
    (found : (call node (.findUser (Principal.locator settings user)) cluster).1 =
      .ok (some record)) : cluster.Finds node settings user record := by
  intro table isMemory
  cases fault : cluster.fault? (cluster.nodes node).wiring .findUser with
  | some reason =>
      rw [call_of_fault (.findUser _) fault] at found
      cases found
  | none =>
      rw [call_of_no_fault (.findUser _) fault] at found
      rwa [callStore, findIn_of_memory isMemory] at found

/-- What comes after an operation without changing anything changes nothing about its gains. -/
theorem GainsGrants.bind {operation : Operation α} {next : α → Operation β}
    (gains : GainsGrants settings node user cluster (operate node operation cluster).2)
    (later : ∀ value, KeepsContents (next value)) :
    GainsGrants settings node user cluster (operate node (operation >>= next) cluster).2 := by
  rw [operate_bind]
  cases ran : operate node operation cluster with
  | mk answer middle =>
      rw [ran] at gains
      cases answer with
      | error error => exact gains
      | ok value => exact gains.trans (later value node middle)

/-- The call that caches what the record of a user resolves to. -/
abbrev caching (settings : Settings) (snapshot : Snapshot) (user : String) (record : User) :
    StoreCall :=
  .cachePut snapshot.revision user (Resolution.grants snapshot record settings.defaultRole)
    settings.cacheSeconds

theorem gainsGrants_caching {snapshot : Snapshot} {record : User}
    (current : cluster.snapshots node = snapshot)
    (finds : cluster.Finds node settings user record) :
    GainsGrants settings node user cluster
      (call node (caching settings snapshot user record) cluster).2 := by
  have change := storeChange_call node (caching settings snapshot user record) cluster
  refine ⟨⟨fun node => by rw [change.nodes], change.entryStores, fun number medium documents held => ?_,
    change.snapshots⟩, fun number cache held => ?_⟩
  · have kept := held.call node (caching settings snapshot user record)
    have reads : (caching settings snapshot user record).kind ≠ .persistSnapshot := nofun
    rwa [Made.onDocuments_of_reads fun _ => reads] at kept
  · have kept := held.call node (caching settings snapshot user record)
    cases answered : (call node (caching settings snapshot user record) cluster).1 with
    | error error =>
        rw [answered, Made.onCache_error] at kept
        exact .inl kept
    | ok _ =>
        rw [answered, Made.onCache] at kept
        split at kept
        · next own => exact .inr ⟨own.symm, record, finds, current ▸ kept⟩
        · exact .inl kept

theorem gainsGrants_cached {snapshot : Snapshot} {record : User}
    (current : cluster.snapshots node = snapshot)
    (finds : cluster.Finds node settings user record) :
    GainsGrants settings node user cluster
      (operate node (Principal.cached settings snapshot user record) cluster).2 := by
  have looking : SameContents cluster (call node (.cacheGet snapshot.revision user) cluster).2 :=
    sameContents_call (Made.changesNothing_of_reads ⟨nofun, nofun, nofun⟩)
  rw [Principal.cached, operate_bind, operate_call]
  cases looked : call node (.cacheGet snapshot.revision user) cluster with
  | mk answer middle =>
      rw [looked] at looking
      cases answer with
      | error error => exact looking.gainsGrants
      | ok cached =>
          cases cached with
          | some grants => exact looking.gainsGrants
          | none =>
              have same := looking.trans (sameContents_told
                (Resolution.warnings snapshot record settings.defaultRole))
              dsimp only
              rw [operate_bind_of_ok Principal.operate_resolve]
              refine same.trans_gainsGrants (.bind (gainsGrants_caching ?_ ?_) fun _ => .pure _)
              · rw [same.snapshots, current]
              · rwa [Finds, same.entries, same.wiring]

theorem gainsGrants_load :
    GainsGrants settings node user cluster
      (operate node (Principal.load settings user) cluster).2 := by
  have finding : SameContents cluster
      (call node (.findUser (Principal.locator settings user)) cluster).2 :=
    sameContents_call (Made.changesNothing_of_reads ⟨nofun, nofun, nofun⟩)
  rw [Principal.load, operate_bind_of_ok operate_current, operate_bind, operate_call]
  cases found : call node (.findUser (Principal.locator settings user)) cluster with
  | mk answer middle =>
      rw [found] at finding
      cases answer with
      | error error => exact finding.gainsGrants
      | ok record =>
          cases record with
          | none => exact finding.gainsGrants
          | some record =>
              have finds : cluster.Finds node settings user record :=
                finds_of_call (congrArg Prod.fst found)
              dsimp only
              split
              · exact (finding.trans ((keepsContents_resolve _ record).bind (fun _ => .pure _) node
                  middle)).gainsGrants
              · refine finding.trans_gainsGrants (.bind (gainsGrants_cached ?_ ?_) fun _ => .pure _)
                · rw [finding.snapshots]
                  rfl
                · rwa [Finds, finding.entries, finding.wiring]

theorem gainsGrants_checkAccess {request : AccessRequest} :
    GainsGrants settings node request.user cluster
      (operate node (checkAccess settings request) cluster).2 := by
  have asking := keepsContents_aclAllows request node cluster
  rw [checkAccess, operate_bind]
  cases asked : operate node (aclAllows request) cluster with
  | mk answer middle =>
      rw [asked] at asking
      cases answer with
      | error error => exact asking.gainsGrants
      | ok granted =>
          cases granted with
          | true => exact asking.gainsGrants
          | false =>
              refine asking.trans_gainsGrants (gainsGrants_load.bind fun principal => ?_)
              split
              · exact .bind (.notes _) fun _ => .pure _
              · exact .pure _

theorem gainsGrants_requireAccess {request : AccessRequest} :
    GainsGrants settings node request.user cluster
      (operate node (requireAccess settings request) cluster).2 :=
  gainsGrants_checkAccess.bind fun allowed => by
    cases allowed with
    | true => exact .pure _
    | false => exact .throw _

/-! ## Commands -/

namespace Bulletin

/-- A permission to view posts, in normal form. -/
def permission : Json :=
  .obj [("actions", .arr [.str "view"]), ("is_active", .bool true),
    ("resource_types", .arr [.str "content"]), ("shortname", .str "read"),
    ("subpaths", .obj [("acme", .arr [.str "posts"])])]

/-- The role that holds the permission. -/
def role : Json :=
  .obj [("is_active", .bool true), ("permissions", .arr [.str "read"]), ("shortname", .str "reader")]

/-- The record of a user who holds the role. -/
def alice : Json :=
  .obj [("roles", .arr [.str "reader"]), ("shortname", .str "alice")]

def entries : EntryTable :=
  let stored (document : Json) : StoredEntry := ⟨true, document, []⟩
  Std.ExtTreeMap.ofList
    [((⟨"management", "permissions", "read", .permission⟩ : Locator), stored permission),
      (⟨"management", "roles", "reader", .role⟩, stored role),
      (⟨"management", "users", "alice", .user⟩, stored alice)]

/-- Nodes that work with the entries, after the first one has reloaded. -/
def loaded : Cluster :=
  (carryOut 0 .reload {
    entryStores := fun _ => { store := .memory entries }
    editions := fun number => ⟨.ofNat (number + 1), .epoch⟩ }).2

/-- A demand of a user who may view posts only. -/
def editing : AccessRequest := ⟨"alice", "acme", "posts", .content, .update, true, none, none, [], none⟩

/-- The nodes after the demand was denied. -/
def denied : Cluster := (carryOut 0 (.require editing) loaded).2

/-- Whether a reload is refused for a full disk. -/
def isRefused : Except ServiceError Snapshot → Bool
  | .error error => error = .unavailable (.switchedOff "disk is full")
  | .ok _ => false

end Bulletin

end Cluster

end AccessControl
