import AccessControl.Cluster

/-!
# How a node carries out operations

An operation is carried out request by request, so what it does to a cluster is put together from
what its parts do.  An operation that ends in a result ran all of its parts to their results, and
a note changes nothing but the journal.
-/

namespace AccessControl

namespace Cluster

variable {α β : Type} {node : Nat} {cluster after : Cluster}

@[simp] theorem operate_pure (value : α) :
    operate node (pure value) cluster = (.ok value, cluster) := rfl

@[simp] theorem operate_throw (error : ServiceError) :
    operate node (throw error : Operation α) cluster = (.error error, cluster) := rfl

@[simp] theorem operate_ofExcept (result : Except ServiceError α) :
    operate node (MonadExcept.ofExcept result : Operation α) cluster = (result, cluster) := by
  cases result <;> rfl

/-- One operation after another that depends on its result. -/
theorem operate_bind (operation : Operation α) (next : α → Operation β) :
    operate node (operation >>= next) cluster =
      match operate node operation cluster with
      | (.ok value, after) => operate node (next value) after
      | (.error error, after) => (.error error, after) := by
  simp only [operate, ExceptT.run_bind, Program.run_bind]
  cases ran : operation.run.run (fun request cluster => step node request cluster) cluster with
  | mk answer after => cases answer <;> rfl

theorem operate_bind_of_ok {operation : Operation α} {value : α}
    (ran : operate node operation cluster = (.ok value, after)) (next : α → Operation β) :
    operate node (operation >>= next) cluster = operate node (next value) after := by
  rw [operate_bind, ran]

/-- Operations in turn have a result only if the first of them has one. -/
theorem exists_of_operate_bind {operation : Operation α} {next : α → Operation β} {result : β}
    (ran : (operate node (operation >>= next) cluster).1 = .ok result) :
    ∃ value after, operate node operation cluster = (.ok value, after) ∧
      (operate node (next value) after).1 = .ok result := by
  rw [operate_bind] at ran
  cases first : operate node operation cluster with
  | mk answer after =>
      rw [first] at ran
      cases answer with
      | error error => cases ran
      | ok value => exact ⟨value, after, rfl, ran⟩

@[simp] theorem operate_current :
    operate node Operation.current cluster = (.ok (cluster.nodes node).snapshot, cluster) := rfl

@[simp] theorem operate_call (storeCall : StoreCall) :
    operate node (Operation.call storeCall) cluster = call node storeCall cluster := rfl

@[simp] theorem step_edition :
    step node .edition cluster =
      (cluster.editions cluster.drawn, { cluster with drawn := cluster.drawn + 1 }) := rfl

/-- The lock changes nothing about the result. -/
theorem operate_exclusively (operation : Operation α) :
    operate node (Operation.exclusively operation) cluster =
      ((operate node operation (step node .lock cluster).2).1,
        (step node .unlock (operate node operation (step node .lock cluster).2).2).2) := by
  simp only [operate, Operation.exclusively, ExceptT.run_mk, Program.run_bind]
  rfl

/-- A cluster of like nodes that work with one snapshot and keep their entries in memory. -/
def standalone (snapshot : Snapshot) (table : EntryTable) : Cluster where
  nodes _ := { snapshot := snapshot }
  entryStores _ := { store := .memory table }
  editions _ := ⟨.nil, .epoch⟩

/-! ## Results -/

/-- Whether an operation has only results of a kind, on every node of every cluster. -/
def Ensures (operation : Operation α) (kind : α → Prop) : Prop :=
  ∀ (node : Nat) (cluster : Cluster) (value : α),
    (operate node operation cluster).1 = .ok value → kind value

theorem ensures_true (operation : Operation α) : Ensures operation fun _ => True :=
  fun _ _ _ _ => trivial

theorem ensures_pure {kind : α → Prop} {value : α} (isKind : kind value) :
    Ensures (pure value) kind := by
  intro node cluster result ran
  exact Except.ok.inj ran ▸ isKind

theorem Ensures.bind {operation : Operation α} {next : α → Operation β} {first : α → Prop}
    {kind : β → Prop} (before : Ensures operation first)
    (later : ∀ value, first value → Ensures (next value) kind) :
    Ensures (operation >>= next) kind := by
  intro node cluster result ran
  obtain ⟨value, after, ranFirst, ranNext⟩ := exists_of_operate_bind ran
  exact later value (before node cluster value (by rw [ranFirst])) node after result ranNext

/-- What comes before an operation without mattering to its results. -/
theorem Ensures.regardless {operation : Operation α} {next : α → Operation β} {kind : β → Prop}
    (later : ∀ value, Ensures (next value) kind) : Ensures (operation >>= next) kind :=
  (ensures_true operation).bind fun value _ => later value

theorem Ensures.exclusively {operation : Operation α} {kind : α → Prop}
    (ensures : Ensures operation kind) : Ensures (Operation.exclusively operation) kind := by
  intro node cluster result ran
  rw [operate_exclusively] at ran
  exact ensures node _ result ran

theorem ensures_ofExcept {result : Except ServiceError α} {kind : α → Prop}
    (isKind : ∀ value, result = .ok value → kind value) :
    Ensures (MonadExcept.ofExcept result : Operation α) kind := by
  intro node cluster value ran
  cases result with
  | error error => cases ran
  | ok found => exact Except.ok.inj ran ▸ isKind found rfl

/-! ## Notes -/

/-- The cluster after some events were told. -/
def told (cluster : Cluster) (events : List Event) : Cluster :=
  { cluster with journal := (events.map Occurrence.told).reverse ++ cluster.journal }

@[simp] theorem operate_notes (events : List Event) :
    operate node (Operation.notes events) cluster = (.ok (), cluster.told events) := by
  induction events generalizing cluster with
  | nil => rfl
  | cons event rest ih =>
      have first : operate node (Operation.note event) cluster =
          (.ok (), cluster.told [event]) := rfl
      rw [Operation.notes, operate_bind_of_ok first, ih]
      simp [told]

/-! ## Calls -/

/-- The cluster after a call was answered. -/
def answered (cluster : Cluster) (storeCall : StoreCall)
    (answer : Except ServiceError storeCall.Answer) : Cluster :=
  { cluster with journal := .called storeCall answer :: cluster.journal }

theorem call_of_fault (storeCall : StoreCall) {reason : String}
    (switchedOff : cluster.fault? (cluster.nodes node).wiring storeCall.kind = some reason) :
    call node storeCall cluster =
      (.error (.unavailable (.switchedOff reason)),
        cluster.answered storeCall (.error (.unavailable (.switchedOff reason)))) := by
  simp only [call, bind, StateT.bind, get, getThe, MonadStateOf.get, StateT.get, pure]
  rw [switchedOff]
  rfl

theorem call_of_no_fault (storeCall : StoreCall)
    (switchedOn : cluster.fault? (cluster.nodes node).wiring storeCall.kind = none) :
    call node storeCall cluster =
      ((callStore (cluster.nodes node).wiring storeCall cluster).1,
        (callStore (cluster.nodes node).wiring storeCall cluster).2.answered storeCall
          (callStore (cluster.nodes node).wiring storeCall cluster).1) := by
  simp only [call, bind, StateT.bind, get, getThe, MonadStateOf.get, StateT.get, pure]
  rw [switchedOn]
  rfl

/-- What is found in a table of entries that is kept in memory. -/
theorem findIn_of_memory {number : Nat} {table : EntryTable}
    (isMemory : (cluster.entryStores number).store = .memory table) (decoder : Decoder α)
    (locator : Locator) :
    findIn number decoder locator cluster = (table.find decoder locator, cluster) := by
  simp only [findIn, bind, StateT.bind, get, getThe, MonadStateOf.get, StateT.get, pure, isMemory]
  rfl

/-- What is saved in a table of entries that is kept in memory. -/
theorem saveEntry_of_memory {number : Nat} {table : EntryTable}
    (isMemory : (cluster.entryStores number).store = .memory table) (space subpath : String)
    (document : Json) :
    saveEntry number space subpath document cluster =
      match table.save space subpath document with
      | .error error => (.error error, cluster)
      | .ok (policies, table) => (.ok policies, (putEntries number table cluster).2) := by
  simp only [saveEntry, bind, StateT.bind, get, getThe, MonadStateOf.get, StateT.get, pure, isMemory]
  cases table.save space subpath document with
  | error error => rfl
  | ok saved => rfl

/-- What is deleted from a table of entries that is kept in memory. -/
theorem deleteEntry_of_memory {number : Nat} {table : EntryTable}
    (isMemory : (cluster.entryStores number).store = .memory table) (locator : Locator) :
    deleteEntry number locator cluster =
      ((table.delete locator).1, (putEntries number (table.delete locator).2 cluster).2) := by
  simp only [deleteEntry, bind, StateT.bind, get, getThe, MonadStateOf.get, StateT.get, pure,
    isMemory]
  rfl

end Cluster

end AccessControl
