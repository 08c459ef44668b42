import AccessControl.Proofs.Cluster.Operation

/-!
# What operations leave alone

A call works on stores, and a store tells of events at most; it changes no node, no switch and no
listing, and draws no edition.  Whatever a node does, the nodes stay set up as they are, and the
journal only grows.
-/

namespace AccessControl

namespace Cluster

variable {α β : Type} {node number : Nat} {before middle after cluster : Cluster}

/-! ## Families -/

@[simp] theorem replace_same (family : Nat → α) (value : α) :
    replace family number value number = value :=
  if_pos rfl

theorem replace_of_ne (family : Nat → α) (value : α) {other : Nat} (differs : other ≠ number) :
    replace family number value other = family other :=
  if_neg differs

theorem replace_self (family : Nat → α) (number : Nat) :
    replace family number (family number) = family := by
  funext other
  rw [replace]
  split
  · next same => rw [same]
  · rfl

theorem comp_replace (f : α → β) (family : Nat → α) (value : α) :
    f ∘ replace family number value = replace (f ∘ family) number (f value) := by
  funext other
  rw [Function.comp_apply, replace, replace, apply_ite f, Function.comp_apply]

/-- What a replaced member has in common with the new one, the families have in common. -/
theorem comp_replace_of_eq (f : α → β) {family : Nat → α} {value : α}
    (same : f value = f (family number)) : f ∘ replace family number value = f ∘ family := by
  rw [comp_replace, same]
  exact replace_self (f ∘ family) number

theorem apply_replace_of_eq (f : α → β) {family : Nat → α} {value : α}
    (same : f value = f (family number)) (other : Nat) :
    f (replace family number value other) = f (family other) :=
  congrFun (comp_replace_of_eq f same) other

/-- Every member of a family with a replaced one has a property that the new one and the others
have. -/
theorem forall_replace {family : Nat → α} {value : α} (property : Nat → α → Prop)
    (own : property number value) (others : ∀ other, other ≠ number → property other (family other))
    (other : Nat) : property other (replace family number value other) := by
  by_cases same : other = number
  · rw [same, replace_same]
    exact own
  · rw [replace_of_ne _ _ same]
    exact others other same

/-! ## Calls -/

/-- A call that was made, and how it was answered. -/
structure Made where
  call : StoreCall
  answer : Except ServiceError call.Answer

/-- The call that a request is, with its answer, if it is one. -/
def Made.ofRequest? : (request : Request) → request.Answer → Option Made
  | .call storeCall, answer => some ⟨storeCall, answer⟩
  | _, _ => none

/-- The call that an occurrence is, if it is one. -/
def made? : Occurrence → Option Made
  | .called call answer => some ⟨call, answer⟩
  | .told _ => none

/-- Whether exactly these calls were made between two states of a cluster, in this order. -/
def Calls (before after : Cluster) (calls : List Made) : Prop :=
  ∃ occurrences, after.journal = occurrences ++ before.journal ∧
    occurrences.reverse.filterMap made? = calls

theorem calls_of_journal_eq (same : after.journal = before.journal) : Calls before after [] :=
  ⟨[], same, rfl⟩

theorem Calls.append {first second : List Made} (earlier : Calls before middle first)
    (later : Calls middle after second) : Calls before after (first ++ second) := by
  obtain ⟨occurrences, journal, rfl⟩ := earlier
  obtain ⟨more, journalLater, rfl⟩ := later
  refine ⟨more ++ occurrences, ?_, ?_⟩
  · rw [journalLater, journal, List.append_assoc]
  · rw [List.reverse_append, List.filterMap_append]

theorem Calls.unique {first second : List Made} (one : Calls before after first)
    (other : Calls before after second) : first = second := by
  obtain ⟨occurrences, journal, rfl⟩ := one
  obtain ⟨others, journalOther, rfl⟩ := other
  rw [List.append_cancel_right (journal.symm.trans journalOther)]

/-! ## Stores -/

/-- Whether an action relates every cluster to what it makes of it. -/
def Keeps (relation : Cluster → Cluster → Prop) (action : StateM Cluster α) : Prop :=
  ∀ cluster, relation cluster (action cluster).2

theorem keeps_get_bind {relation : Cluster → Cluster → Prop} {next : Cluster → StateM Cluster β}
    (keeps : ∀ cluster, Keeps relation (next cluster)) :
    Keeps relation (get >>= next : StateM Cluster β) :=
  fun cluster => keeps cluster cluster

/-- A relation that holds whatever a call of a kind may do to stores: work on the keyspace and on
the database, tell of events, and put contents into the wired stores if calls of the kind do. -/
structure Tolerates (relation : Cluster → Cluster → Prop) (wiring : Wiring) (kind : CallKind) :
    Prop where
  refl : ∀ cluster, relation cluster cluster
  trans : ∀ {before middle after}, relation before middle → relation middle after →
    relation before after
  keyspace : ∀ cluster keyspace, relation cluster { cluster with keyspace := keyspace }
  database : ∀ cluster database, relation cluster { cluster with database := database }
  told : ∀ event, Keeps relation (record (.told event))
  shelf : kind = .prepareIndex ∨ kind = .persistSnapshot →
    ∀ shelf, Keeps relation (putShelf wiring.snapshots shelf)
  cache : kind = .cachePut ∨ kind = .cacheClear →
    ∀ cache, Keeps relation (putCache wiring.cache cache)

namespace Tolerates

variable {relation : Cluster → Cluster → Prop} {wiring : Wiring} {kind : CallKind}

theorem pure (tolerates : Tolerates relation wiring kind) (value : α) :
    Keeps relation (Pure.pure value : StateM Cluster α) :=
  tolerates.refl

theorem bind (tolerates : Tolerates relation wiring kind) {action : StateM Cluster α}
    {next : α → StateM Cluster β} (first : Keeps relation action)
    (second : ∀ value, Keeps relation (next value)) : Keeps relation (action >>= next) :=
  fun cluster => tolerates.trans (first cluster) (second _ _)

theorem onKeyspace (tolerates : Tolerates relation wiring kind) (step : Keyspace → α × Keyspace) :
    Keeps relation (onKeyspace step) :=
  fun cluster => tolerates.keyspace cluster _

theorem onDatabase (tolerates : Tolerates relation wiring kind)
    (step : Database.Server → α × Database.Server) : Keeps relation (onDatabase step) :=
  fun cluster => tolerates.database cluster _

theorem forM_told (tolerates : Tolerates relation wiring kind) (events : List Event) :
    Keeps relation (events.forM fun event => record (.told event)) := by
  induction events with
  | nil => exact tolerates.pure _
  | cons event rest ih => exact tolerates.bind (tolerates.told event) fun _ => ih

theorem findIn (tolerates : Tolerates relation wiring kind) (number : Nat) (decoder : Decoder α)
    (locator : Locator) : Keeps relation (findIn number decoder locator) := by
  refine keeps_get_bind fun cluster => ?_
  split
  · exact tolerates.pure _
  · exact tolerates.onDatabase _

/-- What a call does to stores when it is not switched off. -/
theorem callStore {storeCall : StoreCall} (tolerates : Tolerates relation wiring storeCall.kind) :
    Keeps relation (callStore wiring storeCall) := by
  cases storeCall with
  | loadActiveEntries space subpath type =>
      refine keeps_get_bind fun cluster => ?_
      split
      · exact tolerates.pure _
      · refine keeps_get_bind fun cluster => ?_
        split
        · exact tolerates.pure _
        · exact tolerates.onDatabase _
  | findUser locator => exact tolerates.findIn _ _ _
  | findEntry locator => exact tolerates.findIn _ _ _
  | prepareIndex =>
      refine keeps_get_bind fun cluster => ?_
      split
      · exact tolerates.bind (tolerates.shelf (.inl rfl) _) fun _ => tolerates.pure _
      · exact tolerates.bind (tolerates.onKeyspace _) fun answer =>
          tolerates.bind (tolerates.forM_told _) fun _ => tolerates.pure _
  | persistSnapshot name document =>
      refine keeps_get_bind fun cluster => ?_
      split
      · exact tolerates.bind (tolerates.shelf (.inr rfl) _) fun _ => tolerates.pure _
      · exact tolerates.onKeyspace _
  | fetchSnapshot name =>
      refine keeps_get_bind fun cluster => ?_
      split
      · exact tolerates.pure _
      · exact tolerates.onKeyspace _
  | cacheGet revision user =>
      refine keeps_get_bind fun cluster => ?_
      split
      · exact tolerates.pure _
      · exact tolerates.onKeyspace _
  | cachePut revision user grants seconds =>
      refine keeps_get_bind fun cluster => ?_
      split
      · exact tolerates.bind (tolerates.cache (.inl rfl) _) fun _ => tolerates.pure _
      · exact tolerates.onKeyspace _
  | cacheClear =>
      refine keeps_get_bind fun cluster => ?_
      split
      · exact tolerates.bind (tolerates.cache (.inr rfl) _) fun _ => tolerates.pure _
      · exact tolerates.onKeyspace _

/-- What a call does, which is also written into the journal. -/
theorem call {storeCall : StoreCall}
    (tolerates : Tolerates relation (cluster.nodes node).wiring storeCall.kind)
    (called : ∀ answer, Keeps relation (record (.called storeCall answer))) :
    relation cluster (call node storeCall cluster).2 := by
  cases fault : cluster.fault? (cluster.nodes node).wiring storeCall.kind with
  | some reason =>
      rw [call_of_fault storeCall fault]
      exact called _ cluster
  | none =>
      rw [call_of_no_fault storeCall fault]
      exact tolerates.trans (tolerates.callStore cluster) (called _ _)

end Tolerates

/-- What a change of stores leaves alone. -/
structure StoreChange (before after : Cluster) : Prop where
  nodes : after.nodes = before.nodes
  entryStores : after.entryStores = before.entryStores
  faults : after.fault? = before.fault?
  listings : after.listings = before.listings
  editions : after.editions = before.editions
  drawn : after.drawn = before.drawn

theorem StoreChange.refl (cluster : Cluster) : StoreChange cluster cluster :=
  ⟨rfl, rfl, rfl, rfl, rfl, rfl⟩

theorem StoreChange.trans (first : StoreChange before middle) (second : StoreChange middle after) :
    StoreChange before after :=
  ⟨second.nodes.trans first.nodes, second.entryStores.trans first.entryStores,
    second.faults.trans first.faults, second.listings.trans first.listings,
    second.editions.trans first.editions, second.drawn.trans first.drawn⟩

theorem fault?_putEntries (number : Nat) (table : EntryTable) :
    (putEntries number table cluster).2.fault? = cluster.fault? := by
  funext wiring kind
  have same : Switched.faults ∘ (putEntries number table cluster).2.entryStores =
      Switched.faults ∘ cluster.entryStores := comp_replace_of_eq Switched.faults rfl
  cases kind with
  | loadActiveEntries | findUser | findEntry =>
      exact congrFun (congrFun same wiring.entries) _
  | _ => rfl

theorem fault?_putShelf (number : Nat) (shelf : SnapshotShelf) :
    (putShelf number shelf cluster).2.fault? = cluster.fault? := by
  funext wiring kind
  have same : Switched.faults ∘ (putShelf number shelf cluster).2.snapshotStores =
      Switched.faults ∘ cluster.snapshotStores := comp_replace_of_eq Switched.faults rfl
  cases kind with
  | prepareIndex | persistSnapshot | fetchSnapshot =>
      exact congrFun (congrFun same wiring.snapshots) _
  | _ => rfl

theorem fault?_putCache (number : Nat) (cache : GrantCache) :
    (putCache number cache cluster).2.fault? = cluster.fault? := by
  funext wiring kind
  have same : Switched.faults ∘ (putCache number cache cluster).2.cacheStores =
      Switched.faults ∘ cluster.cacheStores := comp_replace_of_eq Switched.faults rfl
  cases kind with
  | cacheGet | cachePut | cacheClear => exact congrFun (congrFun same wiring.cache) _
  | _ => rfl

theorem tolerates_storeChange (wiring : Wiring) (kind : CallKind) :
    Tolerates StoreChange wiring kind where
  refl := .refl
  trans := .trans
  keyspace _ _ := ⟨rfl, rfl, rfl, rfl, rfl, rfl⟩
  database _ _ := ⟨rfl, rfl, rfl, rfl, rfl, rfl⟩
  told _ _ := ⟨rfl, rfl, rfl, rfl, rfl, rfl⟩
  shelf _ _ _ := ⟨rfl, rfl, fault?_putShelf _ _, rfl, rfl, rfl⟩
  cache _ _ _ := ⟨rfl, rfl, fault?_putCache _ _, rfl, rfl, rfl⟩

theorem storeChange_call (node : Nat) (storeCall : StoreCall) (cluster : Cluster) :
    StoreChange cluster (call node storeCall cluster).2 :=
  (tolerates_storeChange _ _).call fun _ _ => ⟨rfl, rfl, rfl, rfl, rfl, rfl⟩

/-- Stores make no calls. -/
theorem tolerates_quiet (wiring : Wiring) (kind : CallKind) :
    Tolerates (fun before after => Calls before after []) wiring kind where
  refl _ := calls_of_journal_eq rfl
  trans first second := first.append second
  keyspace _ _ := calls_of_journal_eq rfl
  database _ _ := calls_of_journal_eq rfl
  told event _ := ⟨[.told event], rfl, rfl⟩
  shelf _ _ _ := calls_of_journal_eq rfl
  cache _ _ _ := calls_of_journal_eq rfl

theorem calls_call (node : Nat) (storeCall : StoreCall) (cluster : Cluster) :
    Calls cluster (call node storeCall cluster).2 [⟨storeCall, (call node storeCall cluster).1⟩] := by
  cases fault : cluster.fault? (cluster.nodes node).wiring storeCall.kind with
  | some reason =>
      rw [call_of_fault storeCall fault]
      exact ⟨[.called storeCall _], rfl, rfl⟩
  | none =>
      rw [call_of_no_fault storeCall fault]
      exact ((tolerates_quiet _ _).callStore cluster).append
        ⟨[.called storeCall _], rfl, rfl⟩

/-! ## Operations -/

/-- Whatever each step of a node keeps, an operation keeps. -/
theorem operate_keeps (relation : Cluster → Cluster → Prop)
    (refl : ∀ cluster, relation cluster cluster)
    (trans : ∀ {before middle after}, relation before middle → relation middle after →
      relation before after)
    (stepped : ∀ request cluster, relation cluster (step node request cluster).2)
    (operation : Operation α) (cluster : Cluster) :
    relation cluster (operate node operation cluster).2 := by
  rw [operate]
  induction operation.run generalizing cluster with
  | done result => exact refl cluster
  | ask request next ih => exact trans (stepped request cluster) (ih _ _)

/-- What nodes do not change about a cluster while they work: how the nodes are set up, which calls
are switched off, what listings are answered, and the editions to come. -/
structure Continues (before after : Cluster) : Prop where
  settings : ∀ node, (after.nodes node).settings = (before.nodes node).settings
  wiring : ∀ node, (after.nodes node).wiring = (before.nodes node).wiring
  faults : after.fault? = before.fault?
  listings : after.listings = before.listings
  editions : after.editions = before.editions
  drawn : before.drawn ≤ after.drawn

theorem Continues.refl (cluster : Cluster) : Continues cluster cluster :=
  ⟨fun _ => rfl, fun _ => rfl, rfl, rfl, rfl, Nat.le_refl _⟩

theorem Continues.trans (first : Continues before middle) (second : Continues middle after) :
    Continues before after :=
  ⟨fun node => (second.settings node).trans (first.settings node),
    fun node => (second.wiring node).trans (first.wiring node), second.faults.trans first.faults,
    second.listings.trans first.listings, second.editions.trans first.editions,
    Nat.le_trans first.drawn second.drawn⟩

theorem StoreChange.continues (change : StoreChange before after) : Continues before after :=
  ⟨fun node => by rw [change.nodes], fun node => by rw [change.nodes], change.faults,
    change.listings, change.editions, Nat.le_of_eq change.drawn.symm⟩

theorem continues_putEntries (number : Nat) (table : EntryTable) :
    Continues cluster (putEntries number table cluster).2 :=
  ⟨fun _ => rfl, fun _ => rfl, fault?_putEntries number table, rfl, rfl, Nat.le_refl _⟩

theorem continues_modifyNode {change : Node → Node}
    (settings : ∀ node, (change node).settings = node.settings)
    (wiring : ∀ node, (change node).wiring = node.wiring) :
    Continues cluster (modifyNode node change cluster).2 where
  settings other := apply_replace_of_eq Node.settings (settings (cluster.nodes node)) other
  wiring other := apply_replace_of_eq Node.wiring (wiring (cluster.nodes node)) other
  faults := rfl
  listings := rfl
  editions := rfl
  drawn := Nat.le_refl _

theorem continues_step (node : Nat) (request : Request) (cluster : Cluster) :
    Continues cluster (step node request cluster).2 := by
  cases request with
  | current => exact .refl cluster
  | install snapshot => exact continues_modifyNode (fun _ => rfl) (fun _ => rfl)
  | lock => exact continues_modifyNode (fun _ => rfl) (fun _ => rfl)
  | unlock => exact continues_modifyNode (fun _ => rfl) (fun _ => rfl)
  | edition => exact ⟨fun _ => rfl, fun _ => rfl, rfl, rfl, rfl, Nat.le_succ _⟩
  | note event => exact ⟨fun _ => rfl, fun _ => rfl, rfl, rfl, rfl, Nat.le_refl _⟩
  | call storeCall => exact (storeChange_call node storeCall cluster).continues

theorem continues_operate (node : Nat) (operation : Operation α) (cluster : Cluster) :
    Continues cluster (operate node operation cluster).2 :=
  operate_keeps Continues .refl .trans (continues_step node) operation cluster

theorem calls_step_of_ne_call {request : Request} (other : ∀ storeCall, request ≠ .call storeCall) :
    Calls cluster (step node request cluster).2 [] := by
  cases request with
  | call storeCall => exact absurd rfl (other storeCall)
  | note event => exact ⟨[.told event], rfl, rfl⟩
  | current | install _ | lock | unlock | edition => exact calls_of_journal_eq rfl

/-! ## Snapshots -/

/-- The current snapshots of the nodes. -/
def snapshots (cluster : Cluster) (node : Nat) : Snapshot := (cluster.nodes node).snapshot

theorem snapshots_modifyNode {change : Node → Node} :
    (modifyNode node change cluster).2.snapshots =
      replace cluster.snapshots node (change (cluster.nodes node)).snapshot :=
  comp_replace Node.snapshot _ _

@[simp] theorem snapshots_lock : (step node .lock cluster).2.snapshots = cluster.snapshots :=
  snapshots_modifyNode.trans (replace_self _ _)

@[simp] theorem snapshots_unlock : (step node .unlock cluster).2.snapshots = cluster.snapshots :=
  snapshots_modifyNode.trans (replace_self _ _)

@[simp] theorem snapshots_install {snapshot : Snapshot} :
    (step node (.install snapshot) cluster).2.snapshots = replace cluster.snapshots node snapshot :=
  snapshots_modifyNode

theorem StoreChange.snapshots (change : StoreChange before after) :
    after.snapshots = before.snapshots := by
  funext node
  rw [Cluster.snapshots, change.nodes, ← Cluster.snapshots]

/-- Only installing changes snapshots. -/
theorem snapshots_step {request : Request} (other : ∀ snapshot, request ≠ .install snapshot) :
    (step node request cluster).2.snapshots = cluster.snapshots := by
  cases request with
  | install snapshot => exact absurd rfl (other snapshot)
  | lock => exact snapshots_lock
  | unlock => exact snapshots_unlock
  | call storeCall => exact (storeChange_call node storeCall cluster).snapshots
  | current | edition | note => rfl

/-! ## Locks -/

/-- Which nodes are locked. -/
def locks (cluster : Cluster) (node : Nat) : Bool := (cluster.nodes node).isLocked

theorem locks_modifyNode {change : Node → Node} :
    (modifyNode node change cluster).2.locks =
      replace cluster.locks node (change (cluster.nodes node)).isLocked :=
  comp_replace Node.isLocked _ _

@[simp] theorem locks_lock : (step node .lock cluster).2.locks = replace cluster.locks node true :=
  locks_modifyNode

@[simp] theorem locks_unlock :
    (step node .unlock cluster).2.locks = replace cluster.locks node false :=
  locks_modifyNode

/-- Only taking a lock and giving it back change locks. -/
theorem locks_step {request : Request} (noLock : request ≠ .lock) (noUnlock : request ≠ .unlock) :
    (step node request cluster).2.locks = cluster.locks := by
  cases request with
  | lock => exact absurd rfl noLock
  | unlock => exact absurd rfl noUnlock
  | install snapshot => exact locks_modifyNode.trans (replace_self _ _)
  | call storeCall =>
      funext other
      rw [locks, step, (storeChange_call node storeCall cluster).nodes, ← locks]
  | current | edition | note => rfl

/-! ## Runs -/

/-- A run of an operation of a node: how it ended, and the calls that it made. -/
structure Ran (node : Nat) (operation : Operation α) (before : Cluster) (calls : List Made)
    (answer : Except ServiceError α) (after : Cluster) : Prop where
  operated : operate node operation before = (answer, after)
  made : Calls before after calls

variable {calls : List Made} {operation : Operation α} {answer : Except ServiceError α}

/-- A relation that holds for each step of a node, told by its calls, and for steps in turn. -/
structure Accounts (node : Nat) (relation : Cluster → List Made → Cluster → Prop) : Prop where
  refl : ∀ cluster, relation cluster [] cluster
  append : ∀ {before middle after first second}, relation before first middle →
    relation middle second after → relation before (first ++ second) after
  called : ∀ storeCall cluster,
    relation cluster [⟨storeCall, (call node storeCall cluster).1⟩] (call node storeCall cluster).2
  silent : ∀ request cluster, (∀ storeCall, request ≠ .call storeCall) →
    relation cluster [] (step node request cluster).2

/-- What accounts for each step accounts for an operation. -/
theorem Accounts.exists_calls {relation : Cluster → List Made → Cluster → Prop}
    (accounts : Accounts node relation) (operation : Operation α) (cluster : Cluster) :
    ∃ calls, Calls cluster (operate node operation cluster).2 calls ∧
      relation cluster calls (operate node operation cluster).2 := by
  refine operate_keeps
    (fun before after => ∃ calls, Calls before after calls ∧ relation before calls after)
    (fun cluster => ⟨[], calls_of_journal_eq rfl, accounts.refl cluster⟩) ?_ ?_ operation cluster
  · rintro before middle after ⟨_, earlier, first⟩ ⟨_, later, second⟩
    exact ⟨_, earlier.append later, accounts.append first second⟩
  · intro request cluster
    by_cases isCall : ∃ storeCall, request = .call storeCall
    · obtain ⟨storeCall, rfl⟩ := isCall
      exact ⟨_, calls_call node storeCall cluster, accounts.called storeCall cluster⟩
    · have other := not_exists.mp isCall
      exact ⟨[], calls_step_of_ne_call other, accounts.silent request cluster other⟩

theorem Ran.accounted {relation : Cluster → List Made → Cluster → Prop}
    (ran : Ran node operation before calls answer after) (accounts : Accounts node relation) :
    relation before calls after := by
  obtain ⟨operated, made⟩ := ran
  obtain ⟨others, madeOthers, kept⟩ := accounts.exists_calls operation before
  rw [operated] at madeOthers kept
  rwa [made.unique madeOthers]

theorem exists_ran (node : Nat) (operation : Operation α) (cluster : Cluster) :
    ∃ calls, Ran node operation cluster calls (operate node operation cluster).1
      (operate node operation cluster).2 := by
  have nothing : Accounts node fun _ _ _ => True :=
    ⟨fun _ => trivial, fun _ _ => trivial, fun _ _ => trivial, fun _ _ _ => trivial⟩
  obtain ⟨calls, made, -⟩ := nothing.exists_calls operation cluster
  exact ⟨calls, rfl, made⟩

/-- One operation after another ends where the first one fails, or else where the second one ends. -/
theorem Ran.bind_cases {next : α → Operation β} {answer : Except ServiceError β}
    (ran : Ran node (operation >>= next) before calls answer after) :
    (∃ error, answer = .error error ∧ Ran node operation before calls (.error error) after) ∨
      ∃ value middle first second, calls = first ++ second ∧
        Ran node operation before first (.ok value) middle ∧
        Ran node (next value) middle second answer after := by
  obtain ⟨operated, made⟩ := ran
  obtain ⟨first, ranFirst⟩ := exists_ran node operation before
  rw [operate_bind] at operated
  cases ended : operate node operation before with
  | mk result middle =>
      rw [ended] at operated ranFirst
      cases result with
      | error error =>
          obtain ⟨rfl, rfl⟩ := Prod.mk.inj operated
          exact .inl ⟨error, rfl, ended, made⟩
      | ok value =>
          obtain ⟨second, ranSecond⟩ := exists_ran node (next value) middle
          dsimp only at operated
          rw [operated] at ranSecond
          exact .inr ⟨value, middle, first, second,
            made.unique (ranFirst.made.append ranSecond.made), ranFirst, ranSecond⟩

/-- Operations in turn that have a result ran all of their parts. -/
theorem Ran.exists_of_bind {next : α → Operation β} {result : β}
    (ran : Ran node (operation >>= next) before calls (.ok result) after) :
    ∃ value middle first second, calls = first ++ second ∧
      Ran node operation before first (.ok value) middle ∧
      Ran node (next value) middle second (.ok result) after := by
  rcases ran.bind_cases with ⟨_, impossible, -⟩ | parts
  · cases impossible
  · exact parts

theorem Ran.of_pure {value : α} (ran : Ran node (pure value) before calls answer after) :
    answer = .ok value ∧ after = before ∧ calls = [] := by
  obtain ⟨operated, made⟩ := ran
  obtain ⟨rfl, rfl⟩ := Prod.mk.inj operated
  exact ⟨rfl, rfl, made.unique (calls_of_journal_eq rfl)⟩

theorem Ran.of_ofExcept {result : Except ServiceError α}
    (ran : Ran node (MonadExcept.ofExcept result) before calls answer after) :
    answer = result ∧ after = before ∧ calls = [] := by
  obtain ⟨operated, made⟩ := ran
  rw [operate_ofExcept] at operated
  obtain ⟨rfl, rfl⟩ := Prod.mk.inj operated
  exact ⟨rfl, rfl, made.unique (calls_of_journal_eq rfl)⟩

/-- A request other than a call or a note is answered without a trace in the journal. -/
theorem Ran.of_request {request : Request} {answer : Except ServiceError request.Answer}
    (silent : (step node request before).2.journal = before.journal)
    (ran : Ran node (Operation.request request) before calls answer after) :
    answer = .ok (step node request before).1 ∧ after = (step node request before).2 ∧
      calls = [] := by
  obtain ⟨operated, made⟩ := ran
  obtain ⟨rfl, rfl⟩ := Prod.mk.inj operated
  exact ⟨rfl, rfl, made.unique (calls_of_journal_eq silent)⟩

theorem Ran.of_note {event : Event} {answer : Except ServiceError Unit}
    (ran : Ran node (Operation.note event) before calls answer after) :
    answer = .ok () ∧ after = before.told [event] ∧ calls = [] := by
  obtain ⟨operated, made⟩ := ran
  obtain ⟨rfl, rfl⟩ := Prod.mk.inj operated
  exact ⟨rfl, rfl, made.unique ⟨[.told event], rfl, rfl⟩⟩

theorem Ran.of_call {storeCall : StoreCall} {answer : Except ServiceError storeCall.Answer}
    (ran : Ran node (Operation.call storeCall) before calls answer after) :
    StoreChange before after ∧ calls = [⟨storeCall, answer⟩] := by
  obtain ⟨operated, made⟩ := ran
  obtain ⟨rfl, rfl⟩ := Prod.mk.inj operated
  exact ⟨storeChange_call node storeCall before, made.unique (calls_call node storeCall before)⟩

/-- A call whose error is a result has a result. -/
theorem Ran.of_attempt {storeCall : StoreCall}
    {answer : Except ServiceError (Except ServiceError storeCall.Answer)}
    (ran : Ran node (Operation.attempt storeCall) before calls answer after) :
    ∃ answered, answer = .ok answered ∧ StoreChange before after ∧
      calls = [⟨storeCall, answered⟩] := by
  obtain ⟨operated, made⟩ := ran
  obtain ⟨rfl, rfl⟩ := Prod.mk.inj operated
  exact ⟨_, rfl, storeChange_call node storeCall before,
    made.unique (calls_call node storeCall before)⟩

/-- The lock changes nothing about the calls and the result. -/
theorem Ran.of_exclusively (ran : Ran node (Operation.exclusively operation) before calls answer after) :
    ∃ middle, Ran node operation (step node .lock before).2 calls answer middle ∧
      after = (step node .unlock middle).2 := by
  obtain ⟨operated, made⟩ := ran
  rw [operate_exclusively] at operated
  obtain ⟨rfl, rfl⟩ := Prod.mk.inj operated
  exact ⟨_, ⟨rfl, made⟩, rfl⟩

end Cluster

end AccessControl
