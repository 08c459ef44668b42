import AccessControl.Proofs.Cluster.Interleaving
import AccessControl.Proofs.Errands.Ledger

/-!
# The succession of snapshots

However errands are interleaved, and whatever others publish meanwhile, the current snapshot of a
node is only followed by snapshots that are not older.  What a task has read under the lock of its node
is still current when it installs something: only the holder of the lock installs, and installs once.
-/

namespace AccessControl

open Cluster

/-! ## Acts of tasks -/

namespace Act

/-- The current snapshot, if an act reads it. -/
def read? (act : Act) : Option Snapshot := act.request.read? act.answer

/-- What is published, if an act fetches it. -/
def fetched? (act : Act) : Option (Option Json) := act.request.fetched? act.answer

/-- The snapshot that an act installs, if it installs one. -/
def installed? (act : Act) : Option Snapshot := act.request.installed?

end Act

/-! ## Successors -/

/-- Whether every node has kept its current snapshot, or has replaced it by one that may take its
place. -/
def Cluster.Supersedes (after before : Cluster) : Prop :=
  ∀ node, after.snapshots node = before.snapshots node ∨
    (after.snapshots node).Follows (before.snapshots node)

/-- What may happen elsewhere: anything that leaves the current snapshots and the locks of the nodes
alone. -/
structure Cluster.KeepsNodes (before after : Cluster) : Prop where
  snapshots : after.snapshots = before.snapshots
  locks : after.locks = before.locks

namespace Cluster

variable {before after : Cluster}

/-- Whether 64 bits hold the generations of all current snapshots. -/
def Counted (cluster : Cluster) : Prop :=
  ∀ node, (cluster.snapshots node).generation < Decimal.capacity 64

theorem Supersedes.of_eq (same : after.snapshots = before.snapshots) : after.Supersedes before :=
  fun node => .inl (congrFun same node)

theorem Supersedes.counted (supersedes : after.Supersedes before) (counted : before.Counted) :
    after.Counted := by
  intro node
  rcases supersedes node with same | follows
  · rw [same]
    exact counted node
  · exact follows.counted

theorem Supersedes.le (supersedes : after.Supersedes before) (counted : before.Counted) (node : Nat) :
    (before.snapshots node).generation ≤ (after.snapshots node).generation := by
  rcases supersedes node with same | follows
  · rw [same]
  · exact follows.notOlder (counted node)

end Cluster

namespace Errand

variable {settings : Nat → Settings} {first before after : Interleaving Outcome}
  {acts earlier : List Act} {ledger : Ledger} {task node : Nat} {request : Request}

open Interleaving

/-- Whether what was read under the lock is the current snapshot, unless something was installed
since. -/
def Ledger.UpToDate (ledger : Ledger) (current : Snapshot) : Prop :=
  ledger.isInside = true → ledger.installed = [] → ∀ snapshot ∈ ledger.read, snapshot = current

theorem Ledger.UpToDate.enter {answer : request.Answer} {current : Snapshot}
    (upToDate : ledger.UpToDate current) (allowed : ledger.Allows request)
    (reads : ∀ snapshot, request.read? answer = some snapshot → snapshot = current) :
    (ledger.enter request answer).UpToDate current := by
  intro inside uninstalled
  cases request with
  | lock =>
      obtain ⟨-, unread⟩ := allowed
      intro snapshot member
      change snapshot ∈ ledger.read at member
      rw [unread] at member
      cases member
  | unlock => cases inside
  | install snapshot => cases uninstalled
  | current => exact List.forall_mem_cons.mpr ⟨reads _ rfl, upToDate inside uninstalled⟩
  | _ => exact upToDate inside uninstalled

/-- Whether 64 bits hold the generations of all current snapshots, and what tasks have read under the
locks is up to date. -/
structure Settled (acts : List Act) (state : Interleaving Outcome) : Prop where
  counted : state.cluster.Counted
  upToDate : ∀ task running, state.tasks task = some running →
    (succession.reached task acts).UpToDate (state.cluster.snapshots running.node)

/-- What is read as the current snapshot of a node is its current snapshot. -/
theorem eq_of_read {cluster : Cluster} {snapshot : Snapshot}
    (read : request.read? (step node request cluster).1 = some snapshot) :
    snapshot = cluster.snapshots node := by
  cases request with
  | current => exact (Option.some.inj read).symm
  | _ => cases read

/-- Only an installation changes what is current. -/
theorem installs_or_snapshots_eq (node : Nat) (request : Request) (cluster : Cluster) :
    (∃ snapshot, request = .install snapshot) ∨
      (step node request cluster).2.snapshots = cluster.snapshots := by
  by_cases installs : ∃ snapshot, request = .install snapshot
  · exact .inl installs
  · exact .inr (snapshots_step fun snapshot same => installs ⟨snapshot, same⟩)

/-- What a task asks for leaves every current snapshot alone, or puts one in the place of its node's
that may follow on it. -/
theorem Settled.supersedes {next : request.Answer → Program Outcome} (settled : Settled acts before)
    (isNext : before.tasks task = some ⟨node, .ask request next⟩)
    (allowed : (succession.reached task acts).Allows request) :
    (step node request before.cluster).2.Supersedes before.cluster := by
  rcases installs_or_snapshots_eq node request before.cluster with ⟨snapshot, rfl⟩ | same
  · obtain ⟨inside, uninstalled, current, read, follows⟩ := allowed
    have isRead : current ∈ (succession.reached task acts).read :=
      read ▸ List.mem_singleton_self current
    have isCurrent : current = before.cluster.snapshots node :=
      settled.upToDate task _ isNext inside uninstalled current isRead
    rw [Supersedes, snapshots_install]
    refine forall_replace (fun other held => held = before.cluster.snapshots other ∨
      held.Follows (before.cluster.snapshots other)) ?_ fun _ _ => .inl rfl
    exact .inr (isCurrent ▸ follows)
  · exact .of_eq same

/-- What other tasks have read under the locks is up to date after a task was answered: if it installs
something, it is the one that holds the lock of its node. -/
theorem Settled.upToDate_of_ne {next : request.Answer → Program Outcome} {other : Nat}
    {running : Task Outcome} (settled : Settled acts before)
    (excludes : before.Excludes succession (·.isInside = true) acts)
    (isNext : before.tasks task = some ⟨node, .ask request next⟩)
    (allowed : (succession.reached task acts).Allows request) (differs : other ≠ task)
    (isRunning : before.tasks other = some running) :
    (succession.reached other acts).UpToDate
      ((step node request before.cluster).2.snapshots running.node) := by
  intro inside
  have kept : (step node request before.cluster).2.snapshots running.node =
      before.cluster.snapshots running.node := by
    rcases installs_or_snapshots_eq node request before.cluster with ⟨snapshot, rfl⟩ | same
    · have elsewhere : running.node ≠ node := by
        -- Otherwise both tasks would hold the lock.
        intro same
        subst same
        exact differs (excludes.alone other task _ ⟨⟨_, isRunning⟩, inside⟩ ⟨⟨_, isNext⟩, allowed.1⟩)
      rw [snapshots_install, replace_of_ne _ _ elsewhere]
    · rw [same]
  rw [kept]
  exact settled.upToDate other running isRunning inside

theorem Settled.ask {next : request.Answer → Program Outcome} (settled : Settled acts before)
    (excludes : before.Excludes succession (·.isInside = true) acts)
    (isNext : before.tasks task = some ⟨node, .ask request next⟩)
    (allowed : (succession.reached task acts).Allows request) :
    Settled (.asked task node request before.cluster :: acts)
      { cluster := (step node request before.cluster).2
        tasks := replace before.tasks task
          (some ⟨node, next (step node request before.cluster).1⟩) } where
  counted := (settled.supersedes isNext allowed).counted settled.counted
  upToDate := by
    refine forall_running_replace (fun task running =>
      (succession.reached task (_ :: acts)).UpToDate
        ((step node request before.cluster).2.snapshots running.node)) ?_ ?_
    · dsimp only
      rw [Protocol.reached_cons_own]
      rcases installs_or_snapshots_eq node request before.cluster with ⟨snapshot, rfl⟩ | same
      · intro inside uninstalled
        cases uninstalled
      · rw [same]
        exact (settled.upToDate task _ isNext).enter allowed fun _ => eq_of_read
    · intro other differs running isRunning
      rw [Protocol.reached_cons_of_ne differs]
      exact settled.upToDate_of_ne excludes isNext allowed differs isRunning

/-! ## Interleaved errands -/

theorem read_reached : (succession.reached task acts).read = Act.ofTask Act.read? task acts :=
  succession.entries_reached rfl (fun _ _ => rfl) task acts

theorem fetched_reached :
    (succession.reached task acts).fetched = Act.ofTask Act.fetched? task acts :=
  succession.entries_reached rfl (fun _ _ => rfl) task acts

theorem installed_reached :
    (succession.reached task acts).installed = Act.ofTask Act.installed? task acts :=
  succession.entries_reached rfl (fun _ _ => rfl) task acts

theorem binds_succession : Binds (fun _ => succession) (fun _ => Closes)
    (fun node => IsErrand (settings node)) :=
  fun _ _ => Ledger.conforms_of_isErrand

theorem admits_succession : Admits succession (fun node => IsErrand (settings node)) :=
  fun _ _ isErrand => (Ledger.conforms_of_isErrand isErrand).mono fun _ _ _ => trivial

/-- A move keeps what was read under the locks up to date, and leaves no node with an older
snapshot. -/
theorem Settled.move {act : Option Act} (settled : Settled acts before)
    (conforms : before.Conforms succession acts)
    (excludes : before.Excludes succession (·.isInside = true) acts)
    (moves : Moves (fun node => IsErrand (settings node)) KeepsNodes before act after) :
    Settled (act.toList ++ acts) after ∧ after.cluster.Supersedes before.cluster := by
  cases moves with
  | @change cluster keeps =>
      have supersedes : cluster.Supersedes before.cluster := .of_eq keeps.snapshots
      refine ⟨⟨supersedes.counted settled.counted, ?_⟩, supersedes⟩
      rw [keeps.snapshots]
      exact settled.upToDate
  | @begin task node program isNew may =>
      have supersedes : before.cluster.Supersedes before.cluster := .of_eq rfl
      refine ⟨⟨settled.counted, ?_⟩, supersedes⟩
      refine forall_running_replace (fun task running => (succession.reached task acts).UpToDate
        (before.cluster.snapshots running.node)) ?_ fun other _ => settled.upToDate other
      dsimp only
      rw [conforms.of_none isNew]
      intro inside
      cases inside
  | ask isNext free =>
      have allowed := conforms.allows isNext
      exact ⟨settled.ask excludes isNext allowed, settled.supersedes isNext allowed⟩

theorem settled_of_move {act : Option Act} (idle : ∀ task, first.tasks task = none)
    (runs : Runs (fun node => IsErrand (settings node)) KeepsNodes first acts before)
    (moves : Moves (fun node => IsErrand (settings node)) KeepsNodes before act after)
    (settled : Settled acts before) :
    Settled (act.toList ++ acts) after ∧ after.cluster.Supersedes before.cluster := by
  have excludes := runs.excludes brackets_succession (fun _ _ => KeepsNodes.locks) idle
    admits_succession
  exact settled.move (runs.conforms idle admits_succession) excludes moves

theorem settled_of_runs (idle : ∀ task, first.tasks task = none) (counted : first.cluster.Counted)
    (runs : Runs (fun node => IsErrand (settings node)) KeepsNodes first acts after) :
    Settled acts after := by
  induction runs with
  | idle =>
      refine ⟨counted, fun task running isRunning => ?_⟩
      rw [idle task] at isRunning
      cases isRunning
  | move runs moves ih => exact (settled_of_move idle runs moves ih).1

/-- Whether no node has an older current snapshot than before, or has read an older one since. -/
structure Ascends (before : Cluster) (acts : List Act) (after : Cluster) : Prop where
  current : ∀ node, (before.snapshots node).generation ≤ (after.snapshots node).generation
  read : ∀ act ∈ acts, ∀ snapshot, act.read? = some snapshot →
    (before.snapshots act.node).generation ≤ snapshot.generation

theorem ascends_of_runs (idle : ∀ task, first.tasks task = none) (counted : first.cluster.Counted)
    (begun : Runs (fun node => IsErrand (settings node)) KeepsNodes first earlier before)
    (runs : Runs (fun node => IsErrand (settings node)) KeepsNodes before acts after) :
    Ascends before.cluster acts after.cluster := by
  induction runs with
  | idle => exact ⟨fun _ => Nat.le_refl _, List.forall_mem_nil _⟩
  | @move acts middle after act runs moves ih =>
      have whole := begun.trans runs
      have settled := settled_of_runs idle counted whole
      have supersedes := (settled_of_move idle whole moves settled).2
      refine ⟨fun node => (ih.current node).trans (supersedes.le settled.counted node), ?_⟩
      cases moves with
      | change may => exact ih.read
      | begin isNew may => exact ih.read
      | ask isNext free =>
          refine List.forall_mem_cons.mpr ⟨fun snapshot read => ?_, ih.read⟩
          rw [eq_of_read read]
          exact ih.current _

/-- However reloads, adoptions and resolutions are interleaved, whatever is published and whatever
fails meanwhile, no node steps back to an older snapshot.  A reload that succeeds installs one
snapshot, whose generation is above the one that was current before it began and above the one that it
fetched, unless one of these is the last generation. -/
theorem snapshots_never_step_back (idle : ∀ task, first.tasks task = none)
    (counted : ∀ node, (first.cluster.snapshots node).generation ≤ Snapshot.lastGeneration)
    (begun : Runs (fun node => IsErrand (settings node)) KeepsNodes first earlier before)
    (runs : Runs (fun node => IsErrand (settings node)) KeepsNodes before acts after) :
    (∀ node, (before.cluster.snapshots node).generation ≤ (after.cluster.snapshots node).generation) ∧
      ∀ task node snapshot, before.tasks task = none →
        after.tasks task = some ⟨node, .done (.reloaded (.ok snapshot))⟩ →
        Act.ofTask Act.installed? task acts = [snapshot] ∧
          ∃ published, Act.ofTask Act.fetched? task acts = [published] ∧
            (max (before.cluster.snapshots node).generation (Snapshot.publishedGeneration published) <
                snapshot.generation ∨
              max (before.cluster.snapshots node).generation (Snapshot.publishedGeneration published) =
                Snapshot.lastGeneration) := by
  have counted : first.cluster.Counted := fun node => (counted node).trans_lt (by decide)
  have ascends := ascends_of_runs idle counted begun runs
  refine ⟨ascends.current, fun task node snapshot isNew ended => ?_⟩
  have own {β : Type} (pick? : Act → Option β) :
      Act.ofTask pick? task (acts ++ earlier) = Act.ofTask pick? task acts :=
    Act.ofTask_append_of_silent (begun.silent isNew)
  obtain ⟨current, published, read, fetched, installed, isAfter⟩ :=
    ((begun.trans runs).bound idle binds_succession).of_some ended
  rw [read_reached, own] at read
  rw [fetched_reached, own] at fetched
  rw [installed_reached, own] at installed
  refine ⟨installed, published, fetched, ?_⟩
  have later : (before.cluster.snapshots node).generation ≤ current.generation := by
    obtain ⟨act, acted, isOwn, isRead⟩ := Act.mem_ofTask.mp (read ▸ List.mem_singleton_self current)
    obtain ⟨rest, isRunning⟩ := runs.exists_task act acted
    rw [isOwn, ended] at isRunning
    obtain ⟨⟩ := isRunning
    exact ascends.read act acted current isRead
  rw [isAfter]
  exact Snapshot.lt_generationAfter_or later ((settled_of_runs idle counted begun).counted node)
    (Snapshot.publishedGeneration_lt published)

/-! ## An overtaken adoption -/

namespace Overtaken

/-- A node without users. -/
def idle : Interleaving Outcome where
  cluster := { editions := fun number => ⟨.ofNat (number + 1), .epoch⟩ }

/-- A snapshot of the seventh generation that no reload of the node has built. -/
def foreign : Json :=
  .obj [("generation", .int 7), ("revision", .str "00000000-0000-0000-0000-0000000000ff"),
    ("loaded_at", .null), ("groups", .obj []), ("roles", .obj []), ("permissions", .obj [])]

/-- The node has reloaded. -/
def reloaded : List Act × Interleaving Outcome :=
  advance 0 20 ([], { idle with
    tasks := replace idle.tasks 0 (some ⟨0, .reloaded <$> (reload "management").run⟩) })

/-- Someone else has published a snapshot then. -/
def published : Interleaving Outcome :=
  { reloaded.2 with
    cluster := { reloaded.2.cluster with
      snapshotStores := fun _ =>
        { store := .memory (SnapshotShelf.empty.persist Snapshot.publishedName foreign) } } }

/-- The node begins to adopt the snapshot. -/
def adopting : Interleaving Outcome :=
  { published with tasks := replace published.tasks 1 (some ⟨0, .adopted <$> adopt.run⟩) }

/-- The node begins to reload. -/
def begun : Interleaving Outcome :=
  { adopting with
    tasks := replace adopting.tasks 2 (some ⟨0, .reloaded <$> (reload "management").run⟩) }

/-- The snapshot is fetched, and compared with the current one after the node has reloaded. -/
def reached : List Act × Interleaving Outcome :=
  advance 1 20 (advance 2 20 (advance 1 1 ([], begun)))

theorem runs_reloaded : Runs (fun _ => IsErrand {}) KeepsNodes idle reloaded.1 reloaded.2 :=
  .advance 0 20 (Runs.idle.move (.begin rfl .reload))

theorem runs_published : Runs (fun _ => IsErrand {}) KeepsNodes idle reloaded.1 published := by
  have keeps : KeepsNodes reloaded.2.cluster published.cluster := ⟨rfl, rfl⟩
  exact runs_reloaded.move (.change keeps)

theorem runs_begun : Runs (fun _ => IsErrand {}) KeepsNodes published [] begun := by
  have isNew : published.tasks 1 = none := Option.isNone_iff_eq_none.mp (by decide +kernel)
  have isNewToo : adopting.tasks 2 = none := Option.isNone_iff_eq_none.mp (by decide +kernel)
  have runs : Runs (fun _ => IsErrand {}) KeepsNodes published [] adopting :=
    Runs.idle.move (.begin isNew .adopt)
  exact runs.move (.begin isNewToo .reload)

theorem runs_reached : Runs (fun _ => IsErrand {}) KeepsNodes published reached.1 reached.2 :=
  .advance 1 20 (.advance 2 20 (.advance 1 1 runs_begun))

/-- Whether the node has reloaded. -/
def isReloaded : Option (Task Outcome) → Bool
  | some ⟨0, .done (.reloaded (.ok _))⟩ => true
  | _ => false

theorem exists_of_isReloaded {held : Option (Task Outcome)} (isReloaded : isReloaded held = true) :
    ∃ snapshot, held = some ⟨0, .done (.reloaded (.ok snapshot))⟩ := by
  unfold Overtaken.isReloaded at isReloaded
  split at isReloaded
  · exact ⟨_, rfl⟩
  · cases isReloaded

end Overtaken

/-- The snapshot that was fetched before the reload is not adopted after it. -/
theorem snapshots_never_step_back_overtaken :
    (Overtaken.published.cluster.snapshots 0).generation = 1 ∧
      (Overtaken.reached.2.cluster.snapshots 0).generation = 8 ∧
      ∃ snapshot, Act.ofTask Act.installed? 2 Overtaken.reached.1 = [snapshot] := by
  have isReloaded : Overtaken.isReloaded (Overtaken.reached.2.tasks 2) = true := by decide +kernel
  obtain ⟨snapshot, ended⟩ := Overtaken.exists_of_isReloaded isReloaded
  have isNew : Overtaken.published.tasks 2 = none :=
    Option.isNone_iff_eq_none.mp (by decide +kernel)
  obtain ⟨-, ends⟩ := snapshots_never_step_back (fun _ => rfl) (fun _ => Nat.zero_le _)
    Overtaken.runs_published Overtaken.runs_reached
  obtain ⟨installed, -⟩ := ends 2 0 snapshot isNew ended
  exact ⟨by decide +kernel, by decide +kernel, snapshot, installed⟩

end Errand

end AccessControl
