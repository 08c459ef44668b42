import AccessControl.Proofs.Cluster.Filing

/-!
# What operations leave as it is

Most of what a node does only reads: the entries, the published documents, the current snapshots and
the cached grants stay the same.  An operation that does all that can fail before it changes anything
leaves them alone whenever it fails.
-/

namespace AccessControl

namespace Cluster

variable {α β : Type} {node : Nat} {before middle after cluster : Cluster}

/-! ## The same contents -/

/-- Whether, apart from the caches, stores hold the same and nodes work with the same snapshots.  Stores
of published snapshots are kept in memory, or in a keyspace that refuses nothing.  Whether an index was
asked for is left open. -/
structure SameButCaches (before after : Cluster) : Prop where
  wiring : ∀ node, (after.nodes node).wiring = (before.nodes node).wiring
  entries : after.entryStores = before.entryStores
  documents : ∀ number medium documents, before.Holds number medium documents →
    after.Holds number medium documents
  snapshots : after.snapshots = before.snapshots

/-- Whether stores hold the same, as far as caches are kept in memory, and nodes work with the same
snapshots. -/
structure SameContents (before after : Cluster) : Prop extends SameButCaches before after where
  caches : ∀ number cache, before.Caches number cache → after.Caches number cache

theorem SameButCaches.trans (first : SameButCaches before middle)
    (second : SameButCaches middle after) : SameButCaches before after :=
  ⟨fun node => (second.wiring node).trans (first.wiring node), second.entries.trans first.entries,
    fun number medium documents held =>
      second.documents number medium documents (first.documents _ _ _ held),
    second.snapshots.trans first.snapshots⟩

theorem SameContents.refl (cluster : Cluster) : SameContents cluster cluster :=
  ⟨⟨fun _ => rfl, rfl, fun _ _ _ => id, rfl⟩, fun _ _ => id⟩

theorem SameContents.trans (first : SameContents before middle)
    (second : SameContents middle after) : SameContents before after :=
  ⟨first.toSameButCaches.trans second.toSameButCaches,
    fun number cache held => second.caches number cache (first.caches _ _ held)⟩

theorem sameContents_told (events : List Event) : SameContents cluster (cluster.told events) :=
  ⟨⟨fun _ => rfl, rfl, fun _ _ _ held => held.congr (fun _ => rfl) rfl (fun _ => rfl) rfl, rfl⟩,
    fun _ _ => id⟩

theorem sameContents_lock : SameContents cluster (step node .lock cluster).2 :=
  ⟨⟨(continues_step node .lock cluster).wiring, rfl, fun _ _ _ held => held.step_of_ne_call nofun,
    snapshots_lock⟩, fun _ _ => id⟩

theorem sameContents_unlock : SameContents cluster (step node .unlock cluster).2 :=
  ⟨⟨(continues_step node .unlock cluster).wiring, rfl, fun _ _ _ held => held.step_of_ne_call nofun,
    snapshots_unlock⟩, fun _ _ => id⟩

/-- Whether a call changed neither published documents nor cached grants. -/
def Made.ChangesNothing (made : Made) : Prop :=
  ∀ wiring number, (∀ documents, made.onDocuments wiring number documents = documents) ∧
    ∀ cache, made.onCache wiring number cache = cache

theorem Made.changesNothing_error (storeCall : StoreCall) (error : ServiceError) :
    Made.ChangesNothing ⟨storeCall, .error error⟩ :=
  fun _ _ => ⟨fun _ => onDocuments_error storeCall error, fun _ => onCache_error storeCall error⟩

/-- Whether calls of the kind change neither published documents nor cached grants. -/
def OnlyReads (kind : CallKind) : Prop :=
  kind ≠ .persistSnapshot ∧ kind ≠ .cachePut ∧ kind ≠ .cacheClear

theorem Made.changesNothing_of_reads {made : Made} (reads : OnlyReads made.call.kind) :
    made.ChangesNothing :=
  fun _ _ => ⟨fun _ => onDocuments_of_reads fun _ => reads.1,
    fun _ => onCache_of_reads fun _ => not_or.mpr reads.2⟩

theorem sameContents_call {storeCall : StoreCall}
    (nothing : Made.ChangesNothing ⟨storeCall, (call node storeCall cluster).1⟩) :
    SameContents cluster (call node storeCall cluster).2 := by
  have change := storeChange_call node storeCall cluster
  refine ⟨⟨fun node => by rw [change.nodes], change.entryStores, fun number medium documents held => ?_,
    change.snapshots⟩, fun number cache held => ?_⟩
  · have kept := held.call node storeCall
    rwa [(nothing _ number).1] at kept
  · have kept := held.call node storeCall
    rwa [(nothing _ number).2] at kept

/-! ## Operations that change nothing -/

/-- Whether an operation changes nothing, however it ends. -/
def KeepsContents (operation : Operation α) : Prop :=
  ∀ node cluster, SameContents cluster (operate node operation cluster).2

namespace KeepsContents

theorem pure (value : α) : KeepsContents (Pure.pure value) :=
  fun _ cluster => .refl cluster

theorem throw (error : ServiceError) : KeepsContents (MonadExcept.throw error : Operation α) :=
  fun _ cluster => .refl cluster

theorem ofExcept (result : Except ServiceError α) :
    KeepsContents (MonadExcept.ofExcept result) := by
  cases result with
  | ok value => exact pure value
  | error error => exact throw error

theorem current : KeepsContents Operation.current :=
  fun _ cluster => .refl cluster

theorem edition : KeepsContents (Operation.request .edition) :=
  fun _ _ =>
    ⟨⟨fun _ => rfl, rfl, fun _ _ _ held => held.congr (fun _ => rfl) rfl (fun _ => rfl) rfl, rfl⟩,
      fun _ _ => id⟩

theorem notes (events : List Event) : KeepsContents (Operation.notes events) := by
  intro node cluster
  rw [operate_notes]
  exact sameContents_told events

theorem call {storeCall : StoreCall} (reads : OnlyReads storeCall.kind) :
    KeepsContents (Operation.call storeCall) :=
  fun _ _ => sameContents_call (Made.changesNothing_of_reads reads)

theorem bind {operation : Operation α} {next : α → Operation β} (first : KeepsContents operation)
    (later : ∀ value, KeepsContents (next value)) : KeepsContents (operation >>= next) := by
  intro node cluster
  have kept := first node cluster
  rw [operate_bind]
  cases ran : operate node operation cluster with
  | mk answer after =>
      rw [ran] at kept
      cases answer with
      | error error => exact kept
      | ok value => exact kept.trans (later value node after)

end KeepsContents

/-! ## Operations that cannot fail -/

/-- Whether an operation always has a result. -/
def Succeeds (operation : Operation α) : Prop :=
  ∀ node cluster, ∃ value after, operate node operation cluster = (.ok value, after)

namespace Succeeds

theorem pure (value : α) : Succeeds (Pure.pure value) :=
  fun _ cluster => ⟨value, cluster, rfl⟩

theorem request (request : Request) : Succeeds (Operation.request request) :=
  fun _ _ => ⟨_, _, rfl⟩

theorem notes (events : List Event) : Succeeds (Operation.notes events) :=
  fun _ _ => ⟨_, _, operate_notes events⟩

theorem bind {operation : Operation α} {next : α → Operation β} (first : Succeeds operation)
    (later : ∀ value, Succeeds (next value)) : Succeeds (operation >>= next) := by
  intro node cluster
  obtain ⟨value, after, ran⟩ := first node cluster
  rw [operate_bind_of_ok ran]
  exact later value node after

end Succeeds

/-! ## Operations that change nothing if they fail -/

/-- Whether an operation that fails leaves everything as it was. -/
def FailsSafely (operation : Operation α) : Prop :=
  ∀ node before error after, operate node operation before = (.error error, after) →
    SameContents before after

namespace FailsSafely

/-- A call that fails does so before it does anything. -/
theorem call (storeCall : StoreCall) : FailsSafely (Operation.call storeCall) := by
  intro node before error after failed
  rw [operate_call] at failed
  have kept : SameContents before (Cluster.call node storeCall before).2 :=
    sameContents_call (by rw [failed]; exact Made.changesNothing_error _ _)
  rwa [failed] at kept

/-- Nothing is done before something that fails safely. -/
theorem after_keeps {operation : Operation α} {next : α → Operation β}
    (first : KeepsContents operation) (later : ∀ value, FailsSafely (next value)) :
    FailsSafely (operation >>= next) := by
  intro node before error after failed
  have kept := first node before
  rw [operate_bind] at failed
  cases ran : operate node operation before with
  | mk answer middle =>
      rw [ran] at kept failed
      cases answer with
      | error _ =>
          obtain ⟨-, rfl⟩ := Prod.mk.inj failed
          exact kept
      | ok value => exact kept.trans (later value node middle error after failed)

/-- After something that fails safely nothing fails. -/
theorem before_succeeds {operation : Operation α} {next : α → Operation β}
    (first : FailsSafely operation) (later : ∀ value, Succeeds (next value)) :
    FailsSafely (operation >>= next) := by
  intro node before error after failed
  rw [operate_bind] at failed
  cases ran : operate node operation before with
  | mk answer middle =>
      rw [ran] at failed
      cases answer with
      | error _ =>
          obtain ⟨-, rfl⟩ := Prod.mk.inj failed
          exact first node before _ _ ran
      | ok value =>
          obtain ⟨_, _, done⟩ := later value node middle
          cases failed.symm.trans done

theorem exclusively {operation : Operation α} (safe : FailsSafely operation) :
    FailsSafely (Operation.exclusively operation) := by
  intro node before error after failed
  rw [operate_exclusively] at failed
  obtain ⟨isError, rfl⟩ := Prod.mk.inj failed
  exact (sameContents_lock.trans (safe node _ error _ (Prod.ext isError rfl))).trans
    sameContents_unlock

end FailsSafely

end Cluster

end AccessControl
