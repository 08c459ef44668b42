import AccessControl.Database.Basic
import AccessControl.Decision
import AccessControl.Keyspace.GrantCache
import AccessControl.Keyspace.SnapshotShelf
import AccessControl.Memory.EntryTable
import AccessControl.Memory.GrantCache
import AccessControl.Memory.SnapshotShelf
import AccessControl.QueryPolicies
import AccessControl.Reload

/-!
# Clusters

A cluster is a number of nodes that work with shared stores.  Each node has settings, a current
snapshot and a lock, and is wired to one store of entries, one of published snapshots and one cache.
A store is kept in memory or outside, and calls to it can be switched off.

`Cluster.step` carries out one request of one node.  What was called and told is kept in a journal,
the latest first.
-/

namespace AccessControl

variable {α : Type}

/-- A store of entries. -/
inductive EntryStore where
  | memory (table : EntryTable)
  | database (isOpen : Bool)

/-- A store of published snapshots. -/
inductive SnapshotStore where
  | memory (shelf : SnapshotShelf)
  | keyspace (keyPrefix : String) (isUp : Bool)

/-- A cache of resolved grants. -/
inductive CacheStore where
  | memory (cache : GrantCache)
  | keyspace (keyPrefix : String) (isUp : Bool)

/-- A store, and why calls of some kinds to it fail before anything is done. -/
structure Switched (σ : Type) where
  store : σ
  faults : CallKind → Option String := fun _ => none

/-- The stores that a node works with, by number. -/
structure Wiring where
  entries : Nat := 0
  snapshots : Nat := 0
  cache : Nat := 0
  deriving DecidableEq, Repr

/-- A node. -/
structure Node where
  settings : Settings := {}
  wiring : Wiring := {}
  snapshot : Snapshot := .empty
  isLocked : Bool := false

/-- Something that happened while a node worked. -/
inductive Occurrence where
  | called (call : StoreCall) (answer : Except ServiceError call.Answer)
  | told (event : Event)

/-- Nodes and the stores that they share. -/
structure Cluster where
  nodes : Nat → Node := fun _ => {}
  entryStores : Nat → Switched EntryStore := fun _ => { store := .memory ∅ }
  /-- Listings that stores of entries answer in the place of their own, by subpath. -/
  listings : Nat → Dict String (List ListedEntry) := fun _ => ∅
  snapshotStores : Nat → Switched SnapshotStore := fun _ => { store := .memory .empty }
  cacheStores : Nat → Switched CacheStore := fun _ => { store := .memory ∅ }
  keyspace : Keyspace := .empty
  database : Database.Server := {}
  /-- The identities of the snapshots to come, by number. -/
  editions : Nat → Edition
  /-- How many identities were given to snapshots. -/
  drawn : Nat := 0
  journal : List Occurrence := []

namespace Cluster

/-- A numbered family with one member replaced. -/
def replace (family : Nat → α) (number : Nat) (value : α) : Nat → α :=
  fun other => if other = number then value else family other

/-- Adds to the journal. -/
def record (occurrence : Occurrence) : StateM Cluster Unit :=
  modify fun cluster => { cluster with journal := occurrence :: cluster.journal }

/-- Works on the keyspace. -/
def onKeyspace (step : Keyspace → α × Keyspace) : StateM Cluster α :=
  modifyGet fun cluster =>
    let (value, keyspace) := step cluster.keyspace
    (value, { cluster with keyspace := keyspace })

/-- Works on the database. -/
def onDatabase (step : Database.Server → α × Database.Server) : StateM Cluster α :=
  modifyGet fun cluster =>
    let (value, database) := step cluster.database
    (value, { cluster with database := database })

/-- Replaces the content of a store of entries. -/
def putEntries (number : Nat) (table : EntryTable) : StateM Cluster Unit :=
  modify fun cluster =>
    let switched := { cluster.entryStores number with store := .memory table }
    { cluster with entryStores := replace cluster.entryStores number switched }

/-- Replaces the content of a store of published snapshots. -/
def putShelf (number : Nat) (shelf : SnapshotShelf) : StateM Cluster Unit :=
  modify fun cluster =>
    let switched := { cluster.snapshotStores number with store := .memory shelf }
    { cluster with snapshotStores := replace cluster.snapshotStores number switched }

/-- Replaces the content of a cache. -/
def putCache (number : Nat) (cache : GrantCache) : StateM Cluster Unit :=
  modify fun cluster =>
    let switched := { cluster.cacheStores number with store := .memory cache }
    { cluster with cacheStores := replace cluster.cacheStores number switched }

/-- The active entries of a type at a subpath of a store. -/
def listEntries (number : Nat) (space subpath : String) (type : ResourceType) :
    StateM Cluster (Except ServiceError (List ListedEntry)) := do
  match ((← get).entryStores number).store with
  | .memory table => return .ok (table.activeEntries space subpath type)
  | .database isOpen => onDatabase (Database.activeEntries isOpen space subpath type)

/-- The decoded entry at an address of a store. -/
def findIn (number : Nat) (decoder : Decoder α) (locator : Locator) :
    StateM Cluster (Except ServiceError (Option α)) := do
  match ((← get).entryStores number).store with
  | .memory table => return table.find decoder locator
  | .database isOpen => onDatabase (Database.find isOpen decoder locator)

/-- Publishes a document in a store. -/
def publish (number : Nat) (name : String) (document : Json) :
    StateM Cluster (Except ServiceError Unit) := do
  match ((← get).snapshotStores number).store with
  | .memory shelf =>
    putShelf number (shelf.persist name document)
    return .ok ()
  | .keyspace keyPrefix isUp => onKeyspace (Keyspace.persist isUp keyPrefix name document)

/-- The document published in a store. -/
def published (number : Nat) (name : String) :
    StateM Cluster (Except ServiceError (Option Json)) := do
  match ((← get).snapshotStores number).store with
  | .memory shelf => return .ok (shelf.fetch name)
  | .keyspace keyPrefix isUp => onKeyspace (Keyspace.fetch isUp keyPrefix name)

/-- Makes the index of published permissions in a store. -/
def prepareIndex (number : Nat) : StateM Cluster (Except ServiceError Unit) := do
  match ((← get).snapshotStores number).store with
  | .memory shelf =>
    putShelf number shelf.prepareIndex
    return .ok ()
  | .keyspace keyPrefix isUp =>
    let (result, events) ← onKeyspace (Keyspace.prepareIndex isUp keyPrefix)
    events.forM fun event => record (.told event)
    return result

/-- The cached grants of a user under a revision. -/
def cachedGrants (number : Nat) (revision : Uuid) (user : String) :
    StateM Cluster (Except ServiceError (Option Grants)) := do
  match ((← get).cacheStores number).store with
  | .memory cache => return .ok (cache.get revision user)
  | .keyspace keyPrefix isUp => onKeyspace (Keyspace.getGrants isUp keyPrefix revision user)

/-- Caches grants. -/
def cacheGrants (number : Nat) (revision : Uuid) (user : String) (grants : Grants)
    (seconds : Nat) : StateM Cluster (Except ServiceError Unit) := do
  match ((← get).cacheStores number).store with
  | .memory cache =>
    putCache number (cache.put revision user grants seconds)
    return .ok ()
  | .keyspace keyPrefix isUp =>
    onKeyspace (Keyspace.putGrants isUp keyPrefix revision user grants seconds)

/-- Drops all cached grants. -/
def clearCache (number : Nat) : StateM Cluster (Except ServiceError Unit) := do
  match ((← get).cacheStores number).store with
  | .memory _ =>
    putCache number ∅
    return .ok ()
  | .keyspace keyPrefix isUp => onKeyspace (Keyspace.clearGrants isUp keyPrefix)

/-- Why calls of a kind fail, if they do. -/
def fault? (cluster : Cluster) (wiring : Wiring) (kind : CallKind) : Option String :=
  match kind with
  | .loadActiveEntries | .findUser | .findEntry =>
    (cluster.entryStores wiring.entries).faults kind
  | .prepareIndex | .persistSnapshot | .fetchSnapshot =>
    (cluster.snapshotStores wiring.snapshots).faults kind
  | .cacheGet | .cachePut | .cacheClear => (cluster.cacheStores wiring.cache).faults kind

/-- Carries out a call that is not switched off. -/
def callStore (wiring : Wiring) :
    (call : StoreCall) → StateM Cluster (Except ServiceError call.Answer)
  | .loadActiveEntries space subpath type => do
    match ((← get).listings wiring.entries)[subpath]? with
    | some listing => return .ok listing
    | none => listEntries wiring.entries space subpath type
  | .findUser locator => findIn wiring.entries User.decoder locator
  | .findEntry locator => findIn wiring.entries Entry.decoder locator
  | .prepareIndex => prepareIndex wiring.snapshots
  | .persistSnapshot name document => publish wiring.snapshots name document
  | .fetchSnapshot name => published wiring.snapshots name
  | .cacheGet revision user => cachedGrants wiring.cache revision user
  | .cachePut revision user grants seconds => cacheGrants wiring.cache revision user grants seconds
  | .cacheClear => clearCache wiring.cache

/-- Carries out a call of a node. -/
def call (node : Nat) (call : StoreCall) : StateM Cluster (Except ServiceError call.Answer) := do
  let wiring := ((← get).nodes node).wiring
  let answer ←
    match (← get).fault? wiring call.kind with
    | some reason => pure (.error (.unavailable (.switchedOff reason)))
    | none => callStore wiring call
  record (.called call answer)
  return answer

/-- Changes a node. -/
def modifyNode (node : Nat) (change : Node → Node) : StateM Cluster Unit :=
  modify fun cluster =>
    { cluster with nodes := replace cluster.nodes node (change (cluster.nodes node)) }

/-- Draws the identity of a new snapshot. -/
def drawEdition : StateM Cluster Edition :=
  modifyGet fun cluster =>
    (cluster.editions cluster.drawn, { cluster with drawn := cluster.drawn + 1 })

/-- Carries out one request of a node.  That the lock is free when it is asked for is up to
whoever picks the requests. -/
def step (node : Nat) : (request : Request) → StateM Cluster request.Answer
  | .current => return ((← get).nodes node).snapshot
  | .install snapshot => modifyNode node fun node => { node with snapshot := snapshot }
  | .lock => modifyNode node fun node => { node with isLocked := true }
  | .unlock => modifyNode node fun node => { node with isLocked := false }
  | .edition => drawEdition
  | .note event => record (.told event)
  | .call request => call node request

/-- Carries out an operation of a node without interruption. -/
def operate (node : Nat) (operation : Operation α) : StateM Cluster (Except ServiceError α) :=
  fun cluster => operation.run.run (fun request cluster => step node request cluster) cluster

/-- Stores an entry and answers the policies it is stamped with. -/
def saveEntry (number : Nat) (space subpath : String) (document : Json) :
    StateM Cluster (Except ServiceError (List String)) := do
  match ((← get).entryStores number).store with
  | .memory table =>
    match table.save space subpath document with
    | .error error => return .error error
    | .ok (policies, table) =>
      putEntries number table
      return .ok policies
  | .database isOpen => onDatabase (Database.save isOpen space subpath document)

/-- Removes an entry kept in memory and answers whether there was one. -/
def deleteEntry (number : Nat) (locator : Locator) : StateM Cluster Bool := do
  match ((← get).entryStores number).store with
  | .memory table =>
    let (found, table) := table.delete locator
    putEntries number table
    return found
  | .database _ => return false

/-- The policies of an entry kept in memory. -/
def storedPolicies (number : Nat) (locator : Locator) : StateM Cluster (Option (List String)) := do
  match ((← get).entryStores number).store with
  | .memory table => return table.policies? locator
  | .database _ => return none

/-- The entries of a space whose policies match the filters. -/
def searchEntries (number : Nat) (space : String) (filters : List String) :
    StateM Cluster (Except ServiceError (List Locator)) := do
  match ((← get).entryStores number).store with
  | .memory table => return .ok (table.search space filters)
  | .database isOpen => onDatabase (Database.search isOpen space filters)

/-- Whether the index of permissions was asked for, of a shelf kept in memory. -/
def indexPrepared (cluster : Cluster) (number : Nat) : Bool :=
  match (cluster.snapshotStores number).store with
  | .memory shelf => shelf.indexPrepared
  | .keyspace .. => false

/-- Switches calls of a kind off, for a reason, or on again. -/
def setFault (wiring : Wiring) (kind : CallKind) (reason : Option String) :
    StateM Cluster Unit :=
  let changed (faults : CallKind → Option String) : CallKind → Option String :=
    fun other => if other = kind then reason else faults other
  modify fun cluster =>
    match kind with
    | .loadActiveEntries | .findUser | .findEntry =>
      let switched := cluster.entryStores wiring.entries
      { cluster with
        entryStores := replace cluster.entryStores wiring.entries
          { switched with faults := changed switched.faults } }
    | .prepareIndex | .persistSnapshot | .fetchSnapshot =>
      let switched := cluster.snapshotStores wiring.snapshots
      { cluster with
        snapshotStores := replace cluster.snapshotStores wiring.snapshots
          { switched with faults := changed switched.faults } }
    | .cacheGet | .cachePut | .cacheClear =>
      let switched := cluster.cacheStores wiring.cache
      { cluster with
        cacheStores := replace cluster.cacheStores wiring.cache
          { switched with faults := changed switched.faults } }

/-- Lets a store of entries answer a listing of a subpath with the given entries. -/
def setListing (number : Nat) (subpath : String) (listing : List ListedEntry) :
    StateM Cluster Unit :=
  modify fun cluster =>
    { cluster with
      listings := replace cluster.listings number
        ((cluster.listings number).insert subpath listing) }

/-- Sets the replies of the database to the statements to come. -/
def setReplies (replies : List Database.Reply) : StateM Cluster Unit :=
  modify fun cluster => { cluster with database := { cluster.database with replies := replies } }

/-- Takes what happened so far out of the journal, the earliest first. -/
def takeJournal : StateM Cluster (List Occurrence) :=
  modifyGet fun cluster => (cluster.journal.reverse, { cluster with journal := [] })

/-- Takes the statements that were sent so far, the earliest first. -/
def takeStatements : StateM Cluster (List Database.Statement) :=
  modifyGet fun cluster =>
    (cluster.database.sent.reverse,
      { cluster with database := { cluster.database with sent := [] } })

end Cluster

end AccessControl
