import AccessControl.Proofs.Cluster.Service
import AccessControl.Proofs.Decision.Provenance

/-!
# What nodes find and decide

What a node answers about a user follows from three things: its settings, its snapshot and the table
of entries.  Both the user's record and the addressed entry are read from the table, and the grants
are resolved from the snapshot.  A cache has no say in it, as long as what it holds for the user under
the snapshot's revision is what the snapshot resolves to.
-/

namespace AccessControl

variable {node : Nat} {cluster : Cluster} {settings : Settings} {table : EntryTable}
  {snapshot : Snapshot} {name : String} {request : AccessRequest}

/-- Whoever has a record in a table, with the grants under a snapshot. -/
def Principal.found (settings : Settings) (table : EntryTable) (snapshot : Snapshot)
    (name : String) : Except ServiceError Principal :=
  match table.find User.decoder (Principal.locator settings name) with
  | .error error => .error error
  | .ok none => .ok Principal.unknown
  | .ok (some user) => .ok ⟨some user, Resolution.grants snapshot user settings.defaultRole⟩

namespace AccessRequest

/-- Whether the addressed entry, when it is read from a table, grants the action to the user. -/
def grantedByEntry (request : AccessRequest) (table : EntryTable) : Except ServiceError Bool :=
  match request.aclLocator? with
  | none => .ok false
  | some locator =>
    (table.find Entry.decoder locator).map fun found =>
      found.elim false fun entry => entry.aclGrants request.user request.action

/-- How a request is decided with a table of entries and a snapshot. -/
def decided (request : AccessRequest) (settings : Settings) (table : EntryTable)
    (snapshot : Snapshot) : Except ServiceError Bool := do
  if ← request.grantedByEntry table then
    return true
  else
    return request.allowedBy (← Principal.found settings table snapshot request.user)

end AccessRequest

namespace Cluster

/-- Whether the addressed entry grants the action is read from the table, and nothing but the journal
changes. -/
theorem Reads.aclAllows (reads : cluster.Reads node table) (request : AccessRequest) :
    ∃ journal, operate node (AccessControl.aclAllows request) cluster =
      (request.grantedByEntry table, { cluster with journal := journal }) := by
  unfold AccessControl.aclAllows AccessRequest.grantedByEntry
  cases request.aclLocator? with
  | none => exact ⟨cluster.journal, rfl⟩
  | some locator =>
      simp only [operate_bind, reads.call_findEntry]
      cases table.find Entry.decoder locator with
      | error error => exact ⟨_, rfl⟩
      | ok found => cases found <;> exact ⟨_, rfl⟩

/-- A node whose stores answer, and which holds no other grants for a user than the resolved ones. -/
structure Attends (cluster : Cluster) (node : Nat) (settings : Settings) (table : EntryTable)
    (snapshot : Snapshot) (name : String) : Prop where
  current : (cluster.nodes node).snapshot = snapshot
  answers : ∀ kind, cluster.fault? (cluster.nodes node).wiring kind = none
  entries : (cluster.entryStores (cluster.nodes node).wiring.entries).store = .memory table
  coherent : ∀ user, table.find User.decoder (Principal.locator settings name) = .ok (some user) →
    settings.cacheSeconds = 0 ∨
      ∃ cache, (cluster.cacheStores (cluster.nodes node).wiring.cache).store = .memory cache ∧
        ∀ grants, cache.get snapshot.revision name = some grants →
          grants = Resolution.grants snapshot user settings.defaultRole

namespace Attends

theorem journaled (attends : cluster.Attends node settings table snapshot name)
    (journal : List Occurrence) :
    { cluster with journal := journal }.Attends node settings table snapshot name :=
  ⟨attends.current, attends.answers, attends.entries, attends.coherent⟩

/-- A node serves the users whose records it finds. -/
theorem serves {user : User} (attends : cluster.Attends node settings table snapshot name)
    (known : table.find User.decoder (Principal.locator settings name) = .ok (some user)) :
    cluster.Serves node settings table snapshot name user :=
  ⟨attends.current, attends.answers, attends.entries, known, attends.coherent user known⟩

theorem reads (attends : cluster.Attends node settings table snapshot name) :
    cluster.Reads node table :=
  ⟨attends.answers, attends.entries⟩

/-- Looking a user up gives what is found, by way of the cache or not. -/
theorem load (attends : cluster.Attends node settings table snapshot name) :
    (operate node (Principal.load settings name) cluster).1 =
      Principal.found settings table snapshot name := by
  have called := attends.reads.call_findUser (Principal.locator settings name)
  cases found : table.find User.decoder (Principal.locator settings name) with
  | error error =>
      rw [found] at called
      rw [Principal.operate_load_error called, Principal.found, found]
  | ok record =>
      cases record with
      | none =>
          rw [found] at called
          rw [Principal.operate_load_unknown called, Principal.found, found]
      | some user =>
          obtain ⟨after, loaded, -⟩ := (attends.serves found).load
          rw [loaded, Principal.found, found]

/-- A request is decided with the table of entries and the node's snapshot. -/
theorem checkAccess (attends : cluster.Attends node settings table snapshot request.user) :
    (operate node (AccessControl.checkAccess settings request) cluster).1 =
      request.decided settings table snapshot := by
  obtain ⟨journal, answered⟩ := attends.reads.aclAllows request
  rw [AccessRequest.decided]
  cases byEntry : request.grantedByEntry table with
  | error error =>
      rw [byEntry] at answered
      rw [AccessControl.checkAccess, operate_bind, answered]
      rfl
  | ok granted =>
      rw [byEntry] at answered
      cases granted with
      | true =>
          rw [AccessControl.checkAccess, operate_bind_of_ok answered]
          rfl
      | false =>
          have loaded := (attends.journaled journal).load
          cases ran : operate node (Principal.load settings request.user)
              { cluster with journal := journal } with
          | mk answer after =>
              rw [ran] at loaded
              cases answer with
              | error error =>
                  rw [AccessControl.checkAccess, operate_bind_of_ok answered,
                    if_neg Bool.false_ne_true, operate_bind, ran, ← loaded]
                  rfl
              | ok principal =>
                  rw [AccessRequest.operate_checkAccess_of_load answered ran, ← loaded]
                  rfl

end Attends

end Cluster

end AccessControl
