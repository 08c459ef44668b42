import AccessControl.Proofs.Cluster.Contents
import AccessControl.Proofs.Keyspace.Sharing
import AccessControl.Proofs.Snapshot.Retelling

/-!
# What stores give back

A store of published snapshots is kept in memory, where it gives back the documents themselves, or in a
keyspace, where it gives back what is read from their texts.  Either way the documents that it holds
follow from the calls that were made to it.  In a keyspace this takes a server that refuses no command
and caches with keys of their own.
-/

namespace AccessControl

/-! ## Media -/

/-- What a store of published snapshots is kept in. -/
inductive Medium where
  | memory
  /-- A keyspace, where keys for published documents start with a text. -/
  | keyspace (keyPrefix : String)

namespace Medium

/-- Whether a fetch gives a document where another one was published. -/
def Gives : Medium → (document read : Json) → Prop
  | .memory, document, read => read = document
  | .keyspace _, document, read => Json.read document.write = .ok read

/-- Whether a document is given back as it was published. -/
def Keeps : Medium → Json → Prop
  | .memory, _ => True
  | .keyspace _, document => document.IsKeptByText

/-- Whether a node that fetches the document of a snapshot may find another one in it. -/
def Retells (medium : Medium) (snapshot given : Snapshot) : Prop :=
  ∃ read, medium.Gives snapshot.document read ∧ Snapshot.decoder read = .ok given

variable {medium : Medium} {snapshot given : Snapshot} {read : Json}

/-- What a fetch gives of a readable snapshot claims the generation of the snapshot. -/
theorem Gives.publishedGeneration (gives : medium.Gives snapshot.document read)
    (readable : snapshot.IsReadable) :
    Snapshot.publishedGeneration (some read) = snapshot.generation := by
  cases medium with
  | memory =>
      cases gives
      exact Snapshot.publishedGeneration_document readable.generation
  | keyspace keyPrefix => exact readable.publishedGeneration_of_read gives

/-- What is found in a fetched document differs from the snapshot in permissions at most. -/
theorem Retells.eq (retells : medium.Retells snapshot given) (readable : snapshot.IsReadable) :
    given = { snapshot with permissions := given.permissions } := by
  rcases retells with ⟨read, gives, decoded⟩
  cases medium with
  | memory =>
      cases gives
      cases decoded.symm.trans readable.decoder_document
      rfl
  | keyspace keyPrefix => exact readable.eq_of_read gives decoded

theorem Retells.generation (retells : medium.Retells snapshot given)
    (readable : snapshot.IsReadable) : given.generation = snapshot.generation := by
  rw [retells.eq readable]

theorem Retells.revision (retells : medium.Retells snapshot given)
    (readable : snapshot.IsReadable) : given.revision = snapshot.revision := by
  rw [retells.eq readable]

/-- What is found in a fetched document is the snapshot exactly if the document is given back. -/
theorem Retells.eq_iff (retells : medium.Retells snapshot given) (readable : snapshot.IsReadable) :
    given = snapshot ↔ medium.Keeps snapshot.document := by
  rcases retells with ⟨read, gives, decoded⟩
  cases medium with
  | memory =>
      cases gives
      exact iff_of_true (Except.ok.inj (decoded.symm.trans readable.decoder_document)) trivial
  | keyspace keyPrefix => exact readable.eq_iff_of_read gives decoded

end Medium

namespace Cluster

variable {α : Type} {node number : Nat} {before after cluster : Cluster} {wiring : Wiring}
  {keyPrefix cachePrefix : String} {isUp : Bool} {documents : Dict String Json} {calls : List Made}
  {operation : Operation α} {answer : Except ServiceError α}

/-! ## Documents in a keyspace -/

/-- Whether the store of published snapshots that all nodes work with is kept in a keyspace and holds
the documents, while caches in the keyspace have keys of their own. -/
structure Files (cluster : Cluster) (number : Nat) (keyPrefix : String)
    (documents : Dict String Json) : Prop where
  isKept : ∃ isUp, (cluster.snapshotStores number).store = .keyspace keyPrefix isUp
  shared : ∀ node, (cluster.nodes node).wiring.snapshots = number
  apart : ∀ cache cachePrefix isUp,
    (cluster.cacheStores cache).store = .keyspace cachePrefix isUp → Keyspace.Apart keyPrefix cachePrefix
  publishes : Keyspace.Publishes keyPrefix documents cluster.keyspace

namespace Files

theorem congr (files : before.Files number keyPrefix documents)
    (nodes : ∀ node, (after.nodes node).wiring.snapshots = (before.nodes node).wiring.snapshots)
    (stores : (after.snapshotStores number).store = (before.snapshotStores number).store)
    (caches : ∀ cache cachePrefix isUp,
      (after.cacheStores cache).store = .keyspace cachePrefix isUp →
        (before.cacheStores cache).store = .keyspace cachePrefix isUp)
    (keyspace : after.keyspace = before.keyspace) : after.Files number keyPrefix documents where
  isKept := by rw [stores]; exact files.isKept
  shared node := (nodes node).trans (files.shared node)
  apart cache cachePrefix isUp isKept := files.apart cache cachePrefix isUp (caches _ _ _ isKept)
  publishes := by rw [keyspace]; exact files.publishes

/-- The keyspace may come to hold other documents. -/
theorem onKeyspace (files : cluster.Files number keyPrefix documents) {others : Dict String Json}
    {step : Keyspace → α × Keyspace}
    (publishes : Keyspace.Publishes keyPrefix others (step cluster.keyspace).2) :
    (Cluster.onKeyspace step cluster).2.Files number keyPrefix others :=
  { files with publishes := publishes }

end Files

/-- Whether an action leaves the documents in the keyspace as they are. -/
def KeepsFiles (number : Nat) (keyPrefix : String) (documents : Dict String Json)
    (action : StateM Cluster α) : Prop :=
  Keeps (fun before after =>
    before.Files number keyPrefix documents → after.Files number keyPrefix documents) action

namespace KeepsFiles

theorem pure (value : α) :
    KeepsFiles number keyPrefix documents (Pure.pure value : StateM Cluster α) :=
  fun _ => id

theorem bind {β : Type} {action : StateM Cluster α} {next : α → StateM Cluster β}
    (first : KeepsFiles number keyPrefix documents action)
    (second : ∀ value, KeepsFiles number keyPrefix documents (next value)) :
    KeepsFiles number keyPrefix documents (action >>= next) :=
  fun cluster files => second _ _ (first cluster files)

theorem get_bind {β : Type} {next : Cluster → StateM Cluster β}
    (kept : ∀ cluster, cluster.Files number keyPrefix documents →
      KeepsFiles number keyPrefix documents (next cluster)) :
    KeepsFiles number keyPrefix documents (get >>= next) :=
  fun cluster files => kept cluster files cluster files

theorem onKeyspace {step : Keyspace → α × Keyspace}
    (kept : ∀ keyspace, Keyspace.Publishes keyPrefix documents keyspace →
      Keyspace.Publishes keyPrefix documents (step keyspace).2) :
    KeepsFiles number keyPrefix documents (onKeyspace step) :=
  fun cluster files => files.onKeyspace (kept cluster.keyspace files.publishes)

theorem onDatabase (step : Database.Server → α × Database.Server) :
    KeepsFiles number keyPrefix documents (onDatabase step) :=
  fun _ files => files.congr (fun _ => rfl) rfl (fun _ _ _ => id) rfl

theorem record (occurrence : Occurrence) :
    KeepsFiles number keyPrefix documents (record occurrence) :=
  fun _ files => files.congr (fun _ => rfl) rfl (fun _ _ _ => id) rfl

theorem forM_record (events : List Event) :
    KeepsFiles number keyPrefix documents
      (events.forM fun event => Cluster.record (.told event)) := by
  induction events with
  | nil => exact pure _
  | cons event rest ih => exact (record _).bind fun _ => ih

/-- A cache that is kept in memory has nothing to do with the keyspace. -/
theorem putCache (cache : GrantCache) (place : Nat) :
    KeepsFiles number keyPrefix documents (putCache place cache) := by
  intro cluster files
  refine files.congr (fun _ => rfl) rfl (fun other _ _ isKept => ?_) rfl
  change (replace cluster.cacheStores place _ other).store = _ at isKept
  by_cases same : other = place
  · rw [same, replace_same] at isKept
    cases isKept
  · rwa [replace_of_ne _ _ same] at isKept

theorem findIn (place : Nat) (decoder : Decoder α) (locator : Locator) :
    KeepsFiles number keyPrefix documents (findIn place decoder locator) := by
  refine get_bind fun cluster _ => ?_
  split
  · exact pure _
  · exact onDatabase _

/-- Only publishing changes the documents. -/
theorem callStore {storeCall : StoreCall} (shared : wiring.snapshots = number)
    (reads : storeCall.kind ≠ .persistSnapshot) :
    KeepsFiles number keyPrefix documents (callStore wiring storeCall) := by
  cases storeCall with
  | loadActiveEntries space subpath type =>
      refine get_bind fun cluster _ => ?_
      split
      · exact pure _
      · refine get_bind fun cluster _ => ?_
        split
        · exact pure _
        · exact onDatabase _
  | findUser locator => exact findIn _ _ _
  | findEntry locator => exact findIn _ _ _
  | prepareIndex =>
      refine get_bind fun cluster files => ?_
      rcases files.isKept with ⟨isUp, isKept⟩
      rw [shared, isKept]
      refine bind (onKeyspace fun _ publishes => publishes.prepareIndex isUp keyPrefix) fun result => ?_
      exact (forM_record _).bind fun _ => pure _
  | persistSnapshot name document => exact absurd rfl reads
  | fetchSnapshot name =>
      refine get_bind fun cluster files => ?_
      rcases files.isKept with ⟨isUp, isKept⟩
      rw [shared, isKept]
      exact onKeyspace fun _ publishes => (publishes.fetch isUp name).1
  | cacheGet revision user =>
      refine get_bind fun cluster _ => ?_
      split
      · exact pure _
      · exact onKeyspace fun _ publishes => publishes.getGrants _ revision user
  | cachePut revision user grants seconds =>
      refine get_bind fun cluster files => ?_
      split
      · exact (putCache _ _).bind fun _ => pure _
      · next isKept =>
        have apart := files.apart _ _ _ isKept
        exact onKeyspace fun _ publishes => publishes.putGrants apart _ revision user grants seconds
  | cacheClear =>
      refine get_bind fun cluster files => ?_
      split
      · exact (putCache _ _).bind fun _ => pure _
      · next isKept =>
        have apart := files.apart _ _ _ isKept
        exact onKeyspace fun _ publishes => publishes.clearGrants apart _

end KeepsFiles

namespace Files

theorem publish_eq (isKept : (cluster.snapshotStores number).store = .keyspace keyPrefix isUp)
    (name : String) (document : Json) :
    publish number name document cluster =
      Cluster.onKeyspace (Keyspace.persist isUp keyPrefix name document) cluster := by
  simp only [publish, bind, StateT.bind, get, getThe, MonadStateOf.get, StateT.get, pure, isKept]

theorem published_eq (isKept : (cluster.snapshotStores number).store = .keyspace keyPrefix isUp)
    (name : String) :
    published number name cluster =
      Cluster.onKeyspace (Keyspace.fetch isUp keyPrefix name) cluster := by
  simp only [published, bind, StateT.bind, get, getThe, MonadStateOf.get, StateT.get, pure, isKept]

/-- What a call leaves of the documents. -/
theorem callStore (files : cluster.Files number keyPrefix documents)
    (shared : wiring.snapshots = number) (storeCall : StoreCall) :
    (callStore wiring storeCall cluster).2.Files number keyPrefix
      (Made.onDocuments wiring number ⟨storeCall, (callStore wiring storeCall cluster).1⟩
        documents) := by
  by_cases writes : storeCall.kind = .persistSnapshot
  · cases storeCall with
    | persistSnapshot name document =>
        rcases files.isKept with ⟨isUp, isKept⟩
        rw [Cluster.callStore, shared, publish_eq isKept]
        cases ran : Keyspace.persist isUp keyPrefix name document cluster.keyspace with
        | mk answer later =>
            have answered : (Cluster.onKeyspace (Keyspace.persist isUp keyPrefix name document)
                cluster).1 = answer := congrArg Prod.fst ran
            rw [answered]
            apply files.onKeyspace
            rw [ran]
            rcases files.publishes.persist isUp name document ran
              with ⟨rfl, publishes⟩ | ⟨_, rfl, publishes⟩
            · rw [Made.onDocuments, if_pos shared]
              exact publishes
            · exact publishes
    | _ => simp [StoreCall.kind] at writes
  · rw [Made.onDocuments_of_reads fun _ => writes]
    exact KeepsFiles.callStore shared writes cluster files

theorem call (files : cluster.Files number keyPrefix documents) (node : Nat)
    (storeCall : StoreCall) :
    (call node storeCall cluster).2.Files number keyPrefix
      (Made.onDocuments (cluster.nodes node).wiring number
        ⟨storeCall, (call node storeCall cluster).1⟩ documents) := by
  cases fault : cluster.fault? (cluster.nodes node).wiring storeCall.kind with
  | some reason =>
      rw [call_of_fault storeCall fault, Made.onDocuments_error]
      exact KeepsFiles.record _ cluster files
  | none =>
      rw [call_of_no_fault storeCall fault]
      exact KeepsFiles.record _ _ (files.callStore (files.shared node) storeCall)

/-- What is fetched is read from the text of the document. -/
theorem of_fetch {name : String} {fetched : Option Json}
    (files : cluster.Files number keyPrefix documents)
    (isFetched : (Cluster.call node (.fetchSnapshot name) cluster).1 = .ok fetched) :
    Option.Rel (fun document read => Json.read document.write = .ok read) documents[name]? fetched := by
  rcases files.isKept with ⟨isUp, isKept⟩
  cases fault : cluster.fault? (cluster.nodes node).wiring .fetchSnapshot with
  | some reason =>
      rw [call_of_fault (.fetchSnapshot name) fault] at isFetched
      cases isFetched
  | none =>
      rw [call_of_no_fault (.fetchSnapshot name) fault, Cluster.callStore, files.shared,
        published_eq isKept] at isFetched
      exact (files.publishes.fetch isUp name).2 fetched isFetched

end Files

/-! ## Documents in a medium -/

/-- Whether a store of published snapshots is kept in the medium and holds the documents. -/
def Holds (cluster : Cluster) (number : Nat) : Medium → Dict String Json → Prop
  | .memory, documents => cluster.Shelves number documents
  | .keyspace keyPrefix, documents => cluster.Files number keyPrefix documents

/-- Whether the store of published snapshots that a node works with is there, and the node may fetch. -/
structure Reaches (cluster : Cluster) (node : Nat) : Prop where
  isOn : cluster.fault? (cluster.nodes node).wiring .fetchSnapshot = none
  isUp : ∀ keyPrefix isUp, (cluster.snapshotStores (cluster.nodes node).wiring.snapshots).store =
    .keyspace keyPrefix isUp → isUp = true

namespace Holds

variable {medium : Medium}

/-- The documents of a store can be told by the stores and the keyspace. -/
theorem congr (holds : before.Holds number medium documents)
    (wiring : ∀ node, (after.nodes node).wiring = (before.nodes node).wiring)
    (stores : (after.snapshotStores number).store = (before.snapshotStores number).store)
    (caches : ∀ cache, (after.cacheStores cache).store = (before.cacheStores cache).store)
    (keyspace : after.keyspace = before.keyspace) : after.Holds number medium documents := by
  cases medium with
  | memory =>
      rcases holds with ⟨indexPrepared, isMemory⟩
      exact ⟨indexPrepared, stores.trans isMemory⟩
  | keyspace keyPrefix =>
      refine Files.congr holds (fun node => ?_) stores (fun cache _ _ isKept => ?_) keyspace
      · rw [wiring]
      · rwa [← caches]

theorem call (holds : cluster.Holds number medium documents) (node : Nat) (storeCall : StoreCall) :
    (call node storeCall cluster).2.Holds number medium
      (Made.onDocuments (cluster.nodes node).wiring number
        ⟨storeCall, (call node storeCall cluster).1⟩ documents) := by
  cases medium with
  | memory => exact Shelves.call holds node storeCall
  | keyspace keyPrefix => exact Files.call holds node storeCall

/-- What is fetched is what the medium gives of the document. -/
theorem of_fetch {name : String} {fetched : Option Json}
    (holds : cluster.Holds (cluster.nodes node).wiring.snapshots medium documents)
    (isFetched : (Cluster.call node (.fetchSnapshot name) cluster).1 = .ok fetched) :
    Option.Rel medium.Gives documents[name]? fetched := by
  cases medium with
  | memory =>
      rw [Shelves.of_fetch holds isFetched]
      cases documents[name]? with
      | none => exact .none
      | some document => exact .some rfl
  | keyspace keyPrefix => exact Files.of_fetch holds isFetched

/-- What a cache keeps in memory has nothing to do with the documents. -/
theorem putCache (holds : cluster.Holds number medium documents) (place : Nat) (cache : GrantCache) :
    (putCache place cache cluster).2.Holds number medium documents := by
  cases medium with
  | memory => exact holds
  | keyspace keyPrefix => exact KeepsFiles.putCache cache place cluster holds

/-- A node that reaches its store is given what the medium keeps. -/
theorem fetch_of_keeps {name : String}
    (holds : cluster.Holds (cluster.nodes node).wiring.snapshots medium documents)
    (reaches : cluster.Reaches node)
    (keeps : ∀ document, documents[name]? = some document → medium.Keeps document) :
    (Cluster.call node (.fetchSnapshot name) cluster).1 = .ok documents[name]? := by
  rw [call_of_no_fault (.fetchSnapshot name) reaches.isOn]
  cases medium with
  | memory => exact Shelves.published holds name
  | keyspace keyPrefix =>
      rcases Files.isKept holds with ⟨isUp, isKept⟩
      cases reaches.isUp keyPrefix isUp isKept
      rcases (Files.publishes holds).files with ⟨permissions, files⟩
      rw [Cluster.callStore, Files.published_eq isKept]
      exact (files.fetch_eq_iff (Files.publishes holds).free name).mpr keeps

/-- Only calls change the documents. -/
theorem step_of_ne_call {request : Request} (holds : cluster.Holds number medium documents)
    (other : ∀ storeCall, request ≠ .call storeCall) :
    (step node request cluster).2.Holds number medium documents := by
  have wiring := (continues_step node request cluster).wiring
  cases request with
  | call storeCall => exact absurd rfl (other storeCall)
  | _ => exact holds.congr wiring rfl (fun _ => rfl) rfl

end Holds

/-- What a run leaves of the documents follows from its calls. -/
theorem Ran.holds {medium : Medium} (ran : Ran node operation before calls answer after)
    (holds : before.Holds number medium documents) :
    after.Holds number medium (calls.foldl (fun documents made =>
      made.onDocuments (before.nodes node).wiring number documents) documents) :=
  ran.foldl (fun cluster => cluster.Holds number medium)
    (fun wiring made => made.onDocuments wiring number) (fun storeCall held => held.call _ storeCall)
    (fun _ other held => held.step_of_ne_call other) holds

end Cluster

end AccessControl
