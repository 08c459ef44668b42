import AccessControl.Proofs.Cluster.Frame
import AccessControl.Proofs.Protocol

/-!
# Interleavings

Several programs are carried out at the same time, on one node or on several: they take turns, in any
order, one request at a time, and what lies outside of them changes in between.  Only a lock that is
held keeps a program waiting.  Every program conforms to the protocols that it conforms to on its
own, and two programs never hold the lock of one node at the same time.
-/

namespace AccessControl

variable {σ α : Type}

/-- A program that a node is carrying out, or has carried out. -/
structure Task (α : Type) where
  node : Nat
  rest : Program α

/-- A cluster, and the programs that its nodes are carrying out, by number. -/
structure Interleaving (α : Type) where
  cluster : Cluster
  tasks : Nat → Option (Task α) := fun _ => none

/-- One request of a task, and how it was answered. -/
structure Act where
  task : Nat
  node : Nat
  request : Request
  answer : request.Answer

/-- Whether a request has to wait: for the lock, while it is held. -/
def Request.waits (isLocked : Bool) : Request → Bool
  | .lock => isLocked
  | _ => false

/-- The act of a task of a node that asks for something. -/
abbrev Act.asked (task node : Nat) (request : Request) (cluster : Cluster) : Act :=
  ⟨task, node, request, (Cluster.step node request cluster).1⟩

/-- The call that an act is, if it is one. -/
def Act.made? (act : Act) : Option Cluster.Made := Cluster.Made.ofRequest? act.request act.answer

/-- What acts of a task come to, the latest first. -/
def Act.ofTask {β : Type} (pick? : Act → Option β) (task : Nat) (acts : List Act) : List β :=
  (acts.filter (·.task = task)).filterMap pick?

namespace Act

variable {β : Type} {pick? : Act → Option β} {task : Nat} {acts earlier : List Act}

theorem mem_ofTask {item : β} :
    item ∈ ofTask pick? task acts ↔ ∃ act ∈ acts, act.task = task ∧ pick? act = some item := by
  simp [ofTask, and_assoc]

theorem ofTask_append_of_silent (silent : ∀ act ∈ earlier, act.task ≠ task) :
    ofTask pick? task (acts ++ earlier) = ofTask pick? task acts := by
  have nothing : earlier.filter (·.task = task) = [] := by simpa using silent
  rw [ofTask, List.filter_append, nothing, List.append_nil, ofTask]

end Act

/-- The state of a protocol that a task is in after some acts, the latest first. -/
def Protocol.reached (protocol : Protocol σ) (task : Nat) : List Act → σ
  | [] => protocol.start
  | act :: earlier =>
    if act.task = task then protocol.next (protocol.reached task earlier) act.request act.answer
    else protocol.reached task earlier

namespace Protocol

variable {protocol : Protocol σ} {acts : List Act}

@[simp] theorem reached_cons_own {task node : Nat} {request : Request}
    {answer : request.Answer} :
    protocol.reached task (⟨task, node, request, answer⟩ :: acts) =
      protocol.next (protocol.reached task acts) request answer :=
  if_pos rfl

theorem reached_cons_of_ne {act : Act} {task : Nat} (other : task ≠ act.task) :
    protocol.reached task (act :: acts) = protocol.reached task acts :=
  if_neg other.symm

/-- A protocol that enters what each act comes to has entered what all acts of a task come to. -/
theorem entries_reached {β : Type} {entries : σ → List β} {pick? : Act → Option β}
    (start : entries protocol.start = [])
    (next : ∀ state (act : Act), entries (protocol.next state act.request act.answer) =
      (pick? act).toList ++ entries state) (task : Nat) (acts : List Act) :
    entries (protocol.reached task acts) = Act.ofTask pick? task acts := by
  induction acts with
  | nil => exact start
  | cons act earlier ih =>
      rw [Protocol.reached]
      split
      · next own =>
        rw [next, ih]
        simp only [Act.ofTask, List.filter_cons, own, decide_true, if_true, List.filterMap_cons]
        cases pick? act <;> rfl
      · next other => simp [Act.ofTask, other, ih]

end Protocol

namespace Interleaving

open Cluster

/-- What may happen next: a node begins a program, a task asks for its next thing, or something
changes elsewhere. -/
inductive Moves (begins : Nat → Program α → Prop) (elsewhere : Cluster → Cluster → Prop) :
    Interleaving α → Option Act → Interleaving α → Prop where
  | begin {state : Interleaving α} {task node : Nat} {program : Program α}
      (isNew : state.tasks task = none) (may : begins node program) :
      Moves begins elsewhere state none
        { state with tasks := replace state.tasks task (some ⟨node, program⟩) }
  | ask {state : Interleaving α} {task node : Nat} {request : Request}
      {next : request.Answer → Program α}
      (isNext : state.tasks task = some ⟨node, .ask request next⟩)
      (free : request.waits (state.cluster.locks node) = false) :
      Moves begins elsewhere state
        (some (.asked task node request state.cluster))
        { cluster := (step node request state.cluster).2
          tasks := replace state.tasks task
            (some ⟨node, next (step node request state.cluster).1⟩) }
  | change {state : Interleaving α} {cluster : Cluster} (may : elsewhere state.cluster cluster) :
      Moves begins elsewhere state none { state with cluster := cluster }

/-- What may happen in turn, with the acts of the tasks, the latest first. -/
inductive Runs (begins : Nat → Program α → Prop) (elsewhere : Cluster → Cluster → Prop)
    (first : Interleaving α) : List Act → Interleaving α → Prop where
  | idle : Runs begins elsewhere first [] first
  | move {acts : List Act} {before after : Interleaving α} {act : Option Act}
      (runs : Runs begins elsewhere first acts before)
      (moves : Moves begins elsewhere before act after) :
      Runs begins elsewhere first (act.toList ++ acts) after

variable {begins : Nat → Program α → Prop} {elsewhere : Cluster → Cluster → Prop}
  {first state : Interleaving α} {acts : List Act}

/-- What happens after some moves happens in turn with them. -/
theorem Runs.trans {earlier : List Act} {before after : Interleaving α}
    (begun : Runs begins elsewhere first earlier before)
    (runs : Runs begins elsewhere before acts after) :
    Runs begins elsewhere first (acts ++ earlier) after := by
  induction runs with
  | idle => exact begun
  | move _ moves ih =>
      rw [List.append_assoc]
      exact ih.move moves

/-- What holds of a task that goes on and of all others holds of all tasks. -/
theorem forall_running_replace {tasks : Nat → Option (Task α)} {task : Nat} {running : Task α}
    (property : Nat → Task α → Prop) (own : property task running)
    (others : ∀ other, other ≠ task → ∀ held, tasks other = some held → property other held) :
    ∀ other held, replace tasks task (some running) other = some held → property other held := by
  refine forall_replace (fun other (found : Option (Task α)) => ∀ held, found = some held →
    property other held) ?_ others
  rintro _ ⟨⟩
  exact own

/-! ## Picking requests -/

/-- Carries out the next request of a task, unless there is none or it has to wait. -/
def ask? (task : Nat) (state : Interleaving α) : Option (Act × Interleaving α) :=
  match state.tasks task with
  | some ⟨node, .ask request next⟩ =>
    if request.waits (state.cluster.locks node) then none
    else
      let answered := step node request state.cluster
      some (⟨task, node, request, answered.1⟩,
        ⟨answered.2, replace state.tasks task (some ⟨node, next answered.1⟩)⟩)
  | _ => none

/-- Carries out the next requests of a task, up to a number of them, after the acts that there
were. -/
def advance (task : Nat) : Nat → List Act × Interleaving α → List Act × Interleaving α
  | 0, reached => reached
  | count + 1, (acts, state) =>
    match state.ask? task with
    | some (act, after) => advance task count (act :: acts, after)
    | none => (acts, state)

theorem Moves.of_ask? {task : Nat} {act : Act} {after : Interleaving α}
    (asked : state.ask? task = some (act, after)) : Moves begins elsewhere state (some act) after := by
  unfold Interleaving.ask? at asked
  split at asked
  · next isNext =>
    rw [Option.ite_none_left_eq_some] at asked
    obtain ⟨free, isAsked⟩ := asked
    obtain ⟨rfl, rfl⟩ := Prod.mk.inj (Option.some.inj isAsked)
    exact .ask isNext (eq_false_of_ne_true free)
  · cases asked

theorem Runs.advance {reached : List Act × Interleaving α} (task count : Nat)
    (runs : Runs begins elsewhere first reached.1 reached.2) :
    Runs begins elsewhere first (advance task count reached).1 (advance task count reached).2 := by
  induction count generalizing reached with
  | zero => exact runs
  | succ count ih =>
      obtain ⟨acts, state⟩ := reached
      unfold Interleaving.advance
      split
      · next asked => exact ih (runs.move (.of_ask? asked))
      · exact runs

/-! ## Protocols -/

/-- Whether all programs that may begin on a node conform to the protocol of the node, and end as the
node's programs end. -/
def Binds (protocol : Nat → Protocol σ) (ends : Nat → α → σ → Prop)
    (begins : Nat → Program α → Prop) : Prop :=
  ∀ node program, begins node program →
    program.Conforms (protocol node) (ends node) (protocol node).start

/-- Whether a task conforms to the protocol of its node, in the state that it has reached by its acts.
A task that has not begun has reached nothing, whichever node it will be of. -/
def BoundAt (protocol : Nat → Protocol σ) (ends : Nat → α → σ → Prop) (acts : List Act) (task : Nat) :
    Option (Task α) → Prop
  | none => ∀ node, (protocol node).reached task acts = (protocol node).start
  | some running =>
    running.rest.Conforms (protocol running.node) (ends running.node)
      ((protocol running.node).reached task acts)

/-- Whether all tasks conform to the protocols of their nodes. -/
def Bound (protocol : Nat → Protocol σ) (ends : Nat → α → σ → Prop) (state : Interleaving α)
    (acts : List Act) : Prop :=
  ∀ task, BoundAt protocol ends acts task (state.tasks task)

section Bound

variable {protocol : Nat → Protocol σ} {ends : Nat → α → σ → Prop} {task : Nat}

theorem Bound.of_none (bound : state.Bound protocol ends acts) (isNew : state.tasks task = none)
    (node : Nat) : (protocol node).reached task acts = (protocol node).start := by
  have boundTask := bound task
  rw [isNew] at boundTask
  exact boundTask node

theorem Bound.of_some (bound : state.Bound protocol ends acts) {running : Task α}
    (isRunning : state.tasks task = some running) :
    running.rest.Conforms (protocol running.node) (ends running.node)
      ((protocol running.node).reached task acts) := by
  have boundTask := bound task
  rw [isRunning] at boundTask
  exact boundTask

theorem BoundAt.of_reached_eq {held : Option (Task α)} {later : List Act}
    (same : ∀ node, (protocol node).reached task later = (protocol node).reached task acts)
    (bound : BoundAt protocol ends acts task held) : BoundAt protocol ends later task held := by
  cases held with
  | none => exact fun node => (same node).trans (bound node)
  | some running => rw [BoundAt, same]; exact bound

theorem Moves.bound {before after : Interleaving α} {act : Option Act}
    (binds : Binds protocol ends begins) (moves : Moves begins elsewhere before act after)
    (bound : before.Bound protocol ends acts) : after.Bound protocol ends (act.toList ++ acts) := by
  cases moves with
  | change may => exact bound
  | begin isNew may =>
      refine forall_replace (BoundAt protocol ends acts) ?_ fun other _ => bound other
      rw [BoundAt, bound.of_none isNew]
      exact binds _ _ may
  | ask isNext free =>
      refine forall_replace (BoundAt protocol ends (_ :: acts)) ?_ fun other differs =>
        (bound other).of_reached_eq fun _ => Protocol.reached_cons_of_ne differs
      rw [BoundAt, Protocol.reached_cons_own]
      exact (bound.of_some isNext).2 _

/-- Programs that conform to the protocols of their nodes on their own conform to them in any
interleaving. -/
theorem Runs.bound (idle : ∀ task, first.tasks task = none) (binds : Binds protocol ends begins)
    (runs : Runs begins elsewhere first acts state) : state.Bound protocol ends acts := by
  induction runs with
  | idle =>
      intro task
      rw [idle task]
      exact fun _ => rfl
  | move _ moves ih => exact moves.bound binds ih

end Bound

/-- Whether all programs that may begin conform to a protocol. -/
def Admits (protocol : Protocol σ) (begins : Nat → Program α → Prop) : Prop :=
  ∀ node program, begins node program →
    program.Conforms protocol (fun _ _ => True) protocol.start

/-- Whether a task conforms to a protocol, in the state that it has reached by its acts.  A task that
has not begun has reached nothing. -/
def ConformsAt (protocol : Protocol σ) (acts : List Act) (task : Nat) : Option (Task α) → Prop
  | none => protocol.reached task acts = protocol.start
  | some running => running.rest.Conforms protocol (fun _ _ => True) (protocol.reached task acts)

/-- Whether all tasks conform to a protocol. -/
def Conforms (protocol : Protocol σ) (state : Interleaving α) (acts : List Act) : Prop :=
  ∀ task, ConformsAt protocol acts task (state.tasks task)

namespace Conforms

variable {protocol : Protocol σ} {task : Nat}

theorem of_none (conforms : state.Conforms protocol acts) (isNew : state.tasks task = none) :
    protocol.reached task acts = protocol.start := by
  have conformsTask := conforms task
  rw [isNew] at conformsTask
  exact conformsTask

theorem of_some (conforms : state.Conforms protocol acts) {running : Task α}
    (isRunning : state.tasks task = some running) :
    running.rest.Conforms protocol (fun _ _ => True) (protocol.reached task acts) := by
  have conformsTask := conforms task
  rw [isRunning] at conformsTask
  exact conformsTask

end Conforms

/-- Programs that conform to a protocol on their own conform to it in any interleaving. -/
theorem Runs.conforms {protocol : Protocol σ} (idle : ∀ task, first.tasks task = none)
    (admits : Admits protocol begins)
    (runs : Runs begins elsewhere first acts state) : state.Conforms protocol acts := by
  intro task
  have bound : BoundAt (fun _ => protocol) (fun _ _ _ => True) acts task (state.tasks task) :=
    runs.bound idle admits task
  revert bound
  cases state.tasks task with
  | none => exact fun bound => bound 0
  | some running => exact id

/-- What a task asks for is allowed by a protocol that its program conforms to. -/
theorem Conforms.allows {protocol : Protocol σ} {task node : Nat} {request : Request}
    {next : request.Answer → Program α} (conforms : state.Conforms protocol acts)
    (isNext : state.tasks task = some ⟨node, .ask request next⟩) :
    protocol.allows (protocol.reached task acts) request :=
  (conforms.of_some isNext).1

/-- The tasks that have acted have begun, each on the node of its acts. -/
theorem Runs.exists_task (runs : Runs begins elsewhere first acts state) :
    ∀ act ∈ acts, ∃ rest, state.tasks act.task = some ⟨act.node, rest⟩ := by
  induction runs with
  | idle => exact List.forall_mem_nil _
  | move _ moves ih =>
      cases moves with
      | change may => exact ih
      | @begin task node program isNew may =>
          intro act acted
          obtain ⟨rest, isRunning⟩ := ih act acted
          have differs : act.task ≠ task := by
            rintro same
            rw [same, isNew] at isRunning
            cases isRunning
          exact ⟨rest, (replace_of_ne _ _ differs).trans isRunning⟩
      | @ask task node request next isNext free =>
          refine List.forall_mem_cons.mpr ⟨⟨_, replace_same _ _⟩, fun act acted => ?_⟩
          obtain ⟨rest, isRunning⟩ := ih act acted
          by_cases own : act.task = task
          · rw [own, isNext] at isRunning
            obtain ⟨rfl, -⟩ := Task.mk.inj (Option.some.inj isRunning)
            exact ⟨_, by rw [own]; exact replace_same _ _⟩
          · exact ⟨rest, (replace_of_ne _ _ own).trans isRunning⟩

/-- A task that has not begun has not acted. -/
theorem Runs.silent {task : Nat} (runs : Runs begins elsewhere first acts state)
    (isNew : state.tasks task = none) : ∀ act ∈ acts, act.task ≠ task := by
  intro act acted own
  obtain ⟨rest, isRunning⟩ := runs.exists_task act acted
  rw [own, isNew] at isRunning
  cases isRunning

/-! ## Locks -/

/-- Whether a task of a node holds the lock of the node, by the state of a protocol that it has
reached. -/
def Holds (protocol : Protocol σ) (holds : σ → Prop) (state : Interleaving α) (acts : List Act)
    (task node : Nat) : Prop :=
  (∃ rest, state.tasks task = some ⟨node, rest⟩) ∧ holds (protocol.reached task acts)

/-- Whether the lock of a node is held by one task at most, and is taken while it is held. -/
structure Excludes (protocol : Protocol σ) (holds : σ → Prop) (state : Interleaving α)
    (acts : List Act) : Prop where
  locked : ∀ task node, Holds protocol holds state acts task node →
    state.cluster.locks node = true
  alone : ∀ one other node, Holds protocol holds state acts one node →
    Holds protocol holds state acts other node → one = other

variable {protocol : Protocol σ} {holds : σ → Prop} {before after : Interleaving α}
  {act : Option Act} {task other node : Nat}

/-- The other tasks hold what they held. -/
theorem Holds.of_ne {cluster : Cluster} {held : Option (Task α)} {later : List Act}
    (isHeld : Holds protocol holds ⟨cluster, replace state.tasks task held⟩ later other node)
    (differs : other ≠ task) (same : protocol.reached other later = protocol.reached other acts) :
    Holds protocol holds state acts other node := by
  obtain ⟨⟨rest, isRunning⟩, reached⟩ := isHeld
  exact ⟨⟨rest, (replace_of_ne _ _ differs).symm.trans isRunning⟩, same ▸ reached⟩

theorem Holds.of_begin {begun : Nat} {program : Program α} (brackets : protocol.Brackets holds)
    (conforms : state.Conforms protocol acts) (isNew : state.tasks task = none)
    (isHeld : Holds protocol holds
      { state with tasks := replace state.tasks task (some ⟨begun, program⟩) } acts other node) :
    Holds protocol holds state acts other node := by
  by_cases own : other = task
  · have reached := isHeld.2
    rw [own, conforms.of_none isNew] at reached
    exact absurd reached brackets.start
  · exact isHeld.of_ne own rfl

/-- What is held after a task was answered was held before, other than by that task. -/
theorem Holds.of_ask {asking : Nat} {request : Request} {answer : request.Answer} {cluster : Cluster}
    {rest : Program α}
    (isHeld : Holds protocol holds ⟨cluster, replace state.tasks task (some ⟨asking, rest⟩)⟩
      (⟨task, asking, request, answer⟩ :: acts) other node) :
    (other = task ∧ node = asking ∧ holds (protocol.next (protocol.reached task acts) request answer)) ∨
      (other ≠ task ∧ Holds protocol holds state acts other node) := by
  by_cases own : other = task
  · subst own
    obtain ⟨⟨_, isRunning⟩, reached⟩ := isHeld
    obtain ⟨⟩ := (replace_same _ _).symm.trans isRunning
    rw [Protocol.reached_cons_own] at reached
    exact .inl ⟨rfl, rfl, reached⟩
  · exact .inr ⟨own, isHeld.of_ne own (Protocol.reached_cons_of_ne own)⟩

namespace Excludes

/-- What is held was held before, and the locks are as they were. -/
theorem of_subset {later : List Act} (excludes : before.Excludes protocol holds acts)
    (subset : ∀ task node, Holds protocol holds after later task node →
      Holds protocol holds before acts task node)
    (sameLocks : after.cluster.locks = before.cluster.locks) :
    after.Excludes protocol holds later where
  locked task node isHeld := by
    rw [sameLocks]
    exact excludes.locked task node (subset task node isHeld)
  alone one other node first second :=
    excludes.alone one other node (subset one node first) (subset other node second)

/-- A lock that nobody held is held by the task that took it. -/
theorem of_lock {later : List Act} (excludes : before.Excludes protocol holds acts)
    (free : before.cluster.locks node = false)
    (held : ∀ other place, Holds protocol holds after later other place →
      other = task ∧ place = node ∨ Holds protocol holds before acts other place)
    (locks : after.cluster.locks = replace before.cluster.locks node true) :
    after.Excludes protocol holds later := by
  have nobody (other : Nat) : ¬ Holds protocol holds before acts other node := by
    intro isHeld
    rw [excludes.locked other node isHeld] at free
    cases free
  refine ⟨fun other place isHeld => ?_, fun one other place first second => ?_⟩
  · rw [locks]
    rcases held other place isHeld with ⟨-, rfl⟩ | was
    · exact replace_same _ _
    · have elsewhere : place ≠ node := by
        rintro rfl
        exact nobody other was
      rw [replace_of_ne _ _ elsewhere]
      exact excludes.locked other place was
  · rcases held one place first with ⟨rfl, rfl⟩ | wasFirst
    · exact ((held other _ second).resolve_right (nobody other)).1.symm
    · rcases held other place second with ⟨-, rfl⟩ | wasSecond
      · exact absurd wasFirst (nobody one)
      · exact excludes.alone one other place wasFirst wasSecond

/-- A lock that was given back is held by nobody. -/
theorem of_unlock {later : List Act} (excludes : before.Excludes protocol holds acts)
    (was : Holds protocol holds before acts task node)
    (held : ∀ other place, Holds protocol holds after later other place →
      other ≠ task ∧ Holds protocol holds before acts other place)
    (locks : after.cluster.locks = replace before.cluster.locks node false) :
    after.Excludes protocol holds later := by
  refine ⟨fun other place isHeld => ?_, fun one other place first second =>
    excludes.alone one other place (held one place first).2 (held other place second).2⟩
  obtain ⟨differs, still⟩ := held other place isHeld
  have elsewhere : place ≠ node := by
    rintro rfl
    exact differs (excludes.alone other task place still was)
  rw [locks, replace_of_ne _ _ elsewhere]
  exact excludes.locked other place still

end Excludes

theorem Moves.excludes (brackets : protocol.Brackets holds)
    (sameLocks : ∀ before after, elsewhere before after → after.locks = before.locks)
    (moves : Moves begins elsewhere before act after) (conforms : before.Conforms protocol acts)
    (excludes : before.Excludes protocol holds acts) :
    after.Excludes protocol holds (act.toList ++ acts) := by
  cases moves with
  | change may => exact excludes.of_subset (fun _ _ => id) (sameLocks _ _ may)
  | begin isNew may =>
      exact excludes.of_subset (fun _ _ isHeld => isHeld.of_begin brackets conforms isNew) rfl
  | @ask task asking request next isNext free =>
      have allowed := conforms.allows isNext
      by_cases isLock : request = .lock
      · subst isLock
        exact excludes.of_lock free
          (fun _ _ isHeld => isHeld.of_ask.imp (fun own => ⟨own.1, own.2.1⟩) And.right) locks_lock
      · by_cases isUnlock : request = .unlock
        · subst isUnlock
          obtain ⟨held, released⟩ := brackets.unlock _ allowed
          refine excludes.of_unlock ⟨⟨_, isNext⟩, held⟩ (fun other place isHeld => ?_) locks_unlock
          exact isHeld.of_ask.resolve_left fun own => released own.2.2
        · refine excludes.of_subset (fun other place isHeld => ?_) (locks_step isLock isUnlock)
          rcases isHeld.of_ask with ⟨rfl, rfl, reached⟩ | ⟨-, was⟩
          · exact ⟨⟨_, isNext⟩, (brackets.other _ _ _ allowed isLock isUnlock).mp reached⟩
          · exact was

/-- However programs are interleaved, at most one at a time holds the lock of a node. -/
theorem Runs.excludes (brackets : protocol.Brackets holds)
    (sameLocks : ∀ before after, elsewhere before after → after.locks = before.locks)
    (idle : ∀ task, first.tasks task = none)
    (admits : Admits protocol begins)
    (runs : Runs begins elsewhere first acts state) : state.Excludes protocol holds acts := by
  induction runs with
  | idle =>
      have nobody (task node : Nat) : ¬ Holds protocol holds first [] task node := by
        rintro ⟨⟨rest, isRunning⟩, -⟩
        rw [idle task] at isRunning
        cases isRunning
      exact ⟨fun task node isHeld => absurd isHeld (nobody task node),
        fun one _ node isHeld => absurd isHeld (nobody one node)⟩
  | move runs moves ih => exact moves.excludes brackets sameLocks (runs.conforms idle admits) ih

end Interleaving

end AccessControl
