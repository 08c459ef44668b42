import AccessControl.Proofs.Cluster.Contents
import AccessControl.Proofs.Cluster.Interleaving
import AccessControl.Proofs.Reload.Publication

/-!
# Reloads that are overtaken

A reload fetches what is published, and later publishes a snapshot of a generation that is not behind
it.  The lock keeps the other reloads of the node out in between, but not those of other nodes that
share the store.  So the published generation goes backwards only when a node publishes after
another one has published since it fetched, and then it can.
-/

namespace AccessControl

open Cluster

/-- Whether an act publishes a document. -/
def Act.Publishes (act : Act) (document : Json) : Prop :=
  act.made? = some ⟨.persistSnapshot Snapshot.publishedName document, .ok ()⟩

theorem Act.Publishes.request_eq {act : Act} {document : Json} (publishes : act.Publishes document) :
    act.request = .call (.persistSnapshot Snapshot.publishedName document) := by
  obtain ⟨task, node, request, answer⟩ := act
  cases request with
  | call storeCall =>
      obtain ⟨rfl, -⟩ := Made.mk.inj (Option.some.inj publishes)
      rfl
  | _ => cases publishes

/-- Whether an act fetches what is published. -/
def Act.Fetches (act : Act) (published : Option Json) : Prop :=
  act.made? = some ⟨.fetchSnapshot Snapshot.publishedName, .ok published⟩

namespace Reload

variable {α : Type}

/-! ## What is published -/

/-- Whether all nodes work with one store of published snapshots, kept in memory. -/
structure Shares (cluster : Cluster) (number : Nat) : Prop where
  wiring : ∀ node, (cluster.nodes node).wiring.snapshots = number
  shelves : ∃ documents, cluster.Shelves number documents

/-- What does not touch nodes and published documents. -/
structure Aside (before after : Cluster) : Prop where
  nodes : after.nodes = before.nodes
  documents : ∀ number documents, before.Shelves number documents → after.Shelves number documents

section Publishing

variable {number task node : Nat} {request : Request} {before after : Cluster}

theorem Shares.of_aside (shares : Shares before number) (aside : Aside before after) :
    Shares after number where
  wiring node := by rw [aside.nodes, shares.wiring]
  shelves := shares.shelves.imp fun _ held => aside.documents _ _ held

theorem Shares.step (shares : Shares before number) :
    Shares (step node request before).2 number where
  wiring other := by rw [(continues_step node request before).wiring, shares.wiring]
  shelves := shares.shelves.elim fun _ held => ⟨_, held.step node request⟩

theorem Aside.publishedGeneration (aside : Aside before after) (shares : Shares before number) :
    after.publishedGeneration number = before.publishedGeneration number := by
  obtain ⟨documents, shelves⟩ := shares.shelves
  rw [shelves.publishedGeneration, (aside.documents _ _ shelves).publishedGeneration]

/-- An act that publishes a document publishes the generation that the document claims. -/
theorem publishedGeneration_of_publishes {document : Json} (shares : Shares before number)
    (publishes : (Act.asked task node request before).Publishes document) :
    (step node request before).2.publishedGeneration number =
      Snapshot.publishedGeneration (some document) := by
  obtain ⟨documents, shelves⟩ := shares.shelves
  rw [(shelves.step node request).publishedGeneration]
  rw [Act.Publishes, Act.made?] at publishes
  rw [publishes, Option.elim_some, Made.onDocuments, if_pos (shares.wiring node)]
  simp

/-- All other acts leave what is published as it is. -/
theorem publishedGeneration_of_not_publishes (shares : Shares before number)
    (silent : ∀ document,
      ¬ (Act.asked task node request before).Publishes document) :
    (step node request before).2.publishedGeneration number = before.publishedGeneration number := by
  obtain ⟨documents, shelves⟩ := shares.shelves
  rw [(shelves.step node request).publishedGeneration, shelves.publishedGeneration]
  cases isMade : Made.ofRequest? request (step node request before).1 with
  | none => rfl
  | some made =>
      have other (document : Json) :
          made ≠ ⟨.persistSnapshot Snapshot.publishedName document, .ok ()⟩ := by
        rintro rfl
        exact silent document isMade
      rw [Option.elim_some, Made.getElem?_onDocuments_of_ne other]

/-- What is fetched is what is published. -/
theorem publishedGeneration_of_fetches {published : Option Json} (shares : Shares before number)
    (fetches : (Act.asked task node request before).Fetches published) :
    Snapshot.publishedGeneration published = before.publishedGeneration number := by
  obtain ⟨documents, shelves⟩ := shares.shelves
  rw [shelves.publishedGeneration]
  rw [← shares.wiring node] at shelves
  cases request with
  | call storeCall =>
      obtain ⟨rfl, answered⟩ := Made.mk.inj (Option.some.inj fetches)
      rw [shelves.of_fetch (eq_of_heq answered)]
  | _ => cases fetches

end Publishing

/-! ## Overtaking -/

/-- Whether a task has fetched a generation in an act. -/
def FetchesIn (task fetched : Nat) (fetching : Act) : Prop :=
  fetching.task = task ∧
    ∃ published, fetching.Fetches published ∧ Snapshot.publishedGeneration published = fetched

/-- Whether another node has published since a task of a node fetched a generation that was
published.  The latest acts come first. -/
def Overtaken (task node fetched : Nat) (acts : List Act) : Prop :=
  ∃ later publishing between fetching earlier,
    acts = later ++ publishing :: (between ++ fetching :: earlier) ∧
      FetchesIn task fetched fetching ∧
      publishing.node ≠ node ∧ ∃ document, publishing.Publishes document

theorem Overtaken.cons {task node fetched : Nat} {acts : List Act}
    (overtaken : Overtaken task node fetched acts) (act : Act) :
    Overtaken task node fetched (act :: acts) := by
  obtain ⟨later, publishing, between, fetching, earlier, rfl, reason⟩ := overtaken
  exact ⟨act :: later, publishing, between, fetching, earlier, rfl, reason⟩

section Tasks

variable {number task node : Nat} {acts : List Act} {fetched : Nat}

/-- A task that is ready has fetched what was published. -/
theorem exists_fetching (isReady : publication.reached task acts = .ready fetched) :
    ∃ between fetching earlier, acts = between ++ fetching :: earlier ∧
      FetchesIn task fetched fetching := by
  induction acts with
  | nil => cases isReady
  | cons act earlier ih =>
      have continued (still : publication.reached task earlier = .ready fetched) :
          ∃ between fetching before, act :: earlier = between ++ fetching :: before ∧
            FetchesIn task fetched fetching := by
        obtain ⟨between, fetching, before, rfl, reason⟩ := ih still
        exact ⟨act :: between, fetching, before, rfl, reason⟩
      by_cases own : act.task = task
      · rw [Protocol.reached, if_pos own] at isReady
        rcases next_eq_ready isReady with ⟨published, fetches, isFetched⟩ | ⟨still, -⟩
        · exact ⟨[], act, earlier, rfl, own, published, fetches, isFetched⟩
        · exact continued still
      · rw [Protocol.reached, if_neg own] at isReady
        exact continued isReady

theorem exists_ready_of_asked {phase : Phase} {request : Request} {cluster : Cluster}
    {document : Json} (publishes : (Act.asked task node request cluster).Publishes document)
    (allowed : publication.allows phase request) :
    ∃ fetched, phase = .ready fetched ∧
      fetched ≤ Snapshot.publishedGeneration (some document) := by
  have isPersist : request = .call (.persistSnapshot Snapshot.publishedName document) :=
    publishes.request_eq
  rw [isPersist] at allowed
  exact exists_ready_of_publishes allowed

/-- Whether what a task that is ready has fetched is still what is published, unless the task was
overtaken. -/
def UpToDate (number : Nat) (state : Interleaving α) (acts : List Act) : Prop :=
  ∀ task running fetched, state.tasks task = some running →
    publication.reached task acts = .ready fetched →
    fetched = state.cluster.publishedGeneration number ∨
      Overtaken task running.node fetched acts

variable {begins : Nat → Program α → Prop} {before after : Interleaving α} {act : Option Act}

/-- A task that goes on being ready, or has just become so. -/
theorem UpToDate.own {node : Nat} {request : Request} {next : request.Answer → Program α}
    (upToDate : UpToDate number before acts) (shares : Shares before.cluster number)
    (isNext : before.tasks task = some ⟨node, .ask request next⟩)
    (isReady : publication.reached task (.asked task node request before.cluster :: acts) =
      .ready fetched) :
    fetched = (step node request before.cluster).2.publishedGeneration number ∨
      Overtaken task node fetched (.asked task node request before.cluster :: acts) := by
  rw [Protocol.reached_cons_own] at isReady
  rcases next_eq_ready isReady with ⟨published, fetches, rfl⟩ | ⟨still, notPersist⟩
  · have silent (document : Json) :
        ¬ (Act.asked task node request before.cluster).Publishes document :=
      fun publishes => nomatch fetches.symm.trans publishes
    have isFetch : (Act.asked task node request before.cluster).Fetches published := fetches
    left
    rw [publishedGeneration_of_not_publishes shares silent]
    exact publishedGeneration_of_fetches shares isFetch
  · have silent (document : Json) :
        ¬ (Act.asked task node request before.cluster).Publishes document :=
      fun publishes => notPersist _ _ publishes.request_eq
    rw [publishedGeneration_of_not_publishes shares silent]
    exact (upToDate task _ fetched isNext still).imp_right fun overtaken => overtaken.cons _

/-- A task that was ready is up to date still, unless the task that is asking has overtaken it. -/
theorem UpToDate.other {asking node : Nat} {request : Request}
    {next : request.Answer → Program α} {running : Task α} (upToDate : UpToDate number before acts)
    (shares : Shares before.cluster number) (conforms : before.Conforms publication acts)
    (excludes : before.Excludes publication (· ≠ .outside) acts) (differs : task ≠ asking)
    (isNext : before.tasks asking = some ⟨node, .ask request next⟩)
    (isRunning : before.tasks task = some running)
    (isReady : publication.reached task acts = .ready fetched) :
    fetched = (step node request before.cluster).2.publishedGeneration number ∨
      Overtaken task running.node fetched
        (.asked asking node request before.cluster :: acts) := by
  by_cases publishes : ∃ document, (Act.asked asking node request before.cluster).Publishes document
  · obtain ⟨document, publishes⟩ := publishes
    obtain ⟨ahead, isAhead, -⟩ := exists_ready_of_asked publishes (conforms.allows isNext)
    -- both tasks hold the locks of their nodes
    have isHeld : Interleaving.Holds publication (· ≠ .outside) before acts task running.node :=
      ⟨⟨running.rest, isRunning⟩, by rw [isReady]; nofun⟩
    have isHeldAsking : Interleaving.Holds publication (· ≠ .outside) before acts asking node :=
      ⟨⟨_, isNext⟩, by rw [isAhead]; nofun⟩
    have elsewhere : node ≠ running.node := by
      rintro rfl
      exact differs (excludes.alone task asking _ isHeld isHeldAsking)
    obtain ⟨between, fetching, earlier, rfl, reason⟩ := exists_fetching isReady
    exact .inr ⟨[], _, between, fetching, earlier, rfl, reason, elsewhere, document, publishes⟩
  · rw [publishedGeneration_of_not_publishes shares (not_exists.mp publishes)]
    exact (upToDate task running fetched isRunning isReady).imp_right fun overtaken =>
      overtaken.cons _

theorem UpToDate.move (upToDate : UpToDate number before acts)
    (moves : Interleaving.Moves begins Aside before act after)
    (shares : Shares before.cluster number) (conforms : before.Conforms publication acts)
    (excludes : before.Excludes publication (· ≠ .outside) acts) :
    UpToDate number after (act.toList ++ acts) := by
  intro task running fetched isRunning isReady
  cases moves with
  | change aside =>
      rw [aside.publishedGeneration shares]
      exact upToDate task running fetched isRunning isReady
  | @begin begun node program isNew may =>
      by_cases own : task = begun
      · rw [own, Option.toList_none, List.nil_append, conforms.of_none isNew] at isReady
        cases isReady
      · exact upToDate task running fetched ((replace_of_ne _ _ own).symm.trans isRunning) isReady
  | @ask asking node request next isNext free =>
      by_cases own : task = asking
      · subst own
        obtain ⟨⟩ := (replace_same _ _).symm.trans isRunning
        exact upToDate.own shares isNext isReady
      · rw [Option.toList_some, List.singleton_append, Protocol.reached_cons_of_ne own] at isReady
        exact upToDate.other shares conforms excludes own isNext
          ((replace_of_ne _ _ own).symm.trans isRunning) isReady

end Tasks

/-! ## Interleaved reloads -/

section Interleaved

open Interleaving

variable {number : Nat} {begins : Nat → Program α → Prop} {first before after : Interleaving α}
  {acts : List Act} {act : Option Act}

theorem Aside.locks {before after : Cluster} (aside : Aside before after) :
    after.locks = before.locks := by
  funext node
  rw [Cluster.locks, aside.nodes, ← Cluster.locks]

theorem Shares.move (shares : Shares before.cluster number)
    (moves : Moves begins Aside before act after) : Shares after.cluster number := by
  cases moves with
  | begin isNew may => exact shares
  | ask isNext free => exact shares.step
  | change aside => exact shares.of_aside aside

/-- What tasks know of what is published, however they are interleaved. -/
theorem upToDate_of_runs (admits : Admits publication begins)
    (idle : ∀ task, first.tasks task = none) (shares : Shares first.cluster number)
    (runs : Runs begins Aside first acts before) :
    Shares before.cluster number ∧ UpToDate number before acts := by
  induction runs with
  | idle =>
      refine ⟨shares, fun task running fetched isRunning => ?_⟩
      rw [idle task] at isRunning
      cases isRunning
  | move runs moves ih =>
      have conforms := runs.conforms idle admits
      have excludes := runs.excludes brackets_publication (fun _ _ => Aside.locks) idle admits
      exact ⟨ih.1.move moves, ih.2.move moves ih.1 conforms excludes⟩

/-- What a move does to the published generation. -/
theorem le_or_overtaken (admits : Admits publication begins)
    (idle : ∀ task, first.tasks task = none) (shares : Shares first.cluster number)
    (runs : Runs begins Aside first acts before) (moves : Moves begins Aside before act after) :
    before.cluster.publishedGeneration number ≤ after.cluster.publishedGeneration number ∨
      ∃ publishing document fetched, act = some publishing ∧ publishing.Publishes document ∧
        Overtaken publishing.task publishing.node fetched acts ∧
        fetched ≤ after.cluster.publishedGeneration number := by
  obtain ⟨sharesNow, upToDate⟩ := upToDate_of_runs admits idle shares runs
  cases moves with
  | begin isNew may => exact .inl (Nat.le_refl _)
  | change aside => exact .inl (aside.publishedGeneration sharesNow).ge
  | @ask task node request next isNext free =>
      by_cases publishes : ∃ document, (Act.asked task node request before.cluster).Publishes document
      · obtain ⟨document, publishes⟩ := publishes
        obtain ⟨fetched, isReady, notBehind⟩ :=
          exists_ready_of_asked publishes ((runs.conforms idle admits).allows isNext)
        rw [← publishedGeneration_of_publishes sharesNow publishes] at notBehind
        rcases upToDate task _ fetched isNext isReady with rfl | overtaken
        · exact .inl notBehind
        · exact .inr ⟨_, document, fetched, rfl, publishes, overtaken, notBehind⟩
      · exact .inl (publishedGeneration_of_not_publishes sharesNow (not_exists.mp publishes)).ge

/-- The nodes of the tasks are those on which programs begin. -/
theorem node_of_runs {home : Nat} (within : ∀ node program, begins node program → node = home)
    (idle : ∀ task, first.tasks task = none) (runs : Runs begins Aside first acts before) :
    (∀ task running, before.tasks task = some running → running.node = home) ∧
      ∀ act ∈ acts, act.node = home := by
  induction runs with
  | idle =>
      refine ⟨fun task running isRunning => ?_, List.forall_mem_nil _⟩
      rw [idle task] at isRunning
      cases isRunning
  | move runs moves ih =>
      obtain ⟨atHome, acted⟩ := ih
      let isAtHome (_ : Nat) (held : Option (Task α)) : Prop :=
        ∀ running, held = some running → running.node = home
      cases moves with
      | change aside => exact ⟨atHome, acted⟩
      | begin isNew may =>
          refine ⟨forall_replace isAtHome ?_ fun other _ => atHome other, acted⟩
          rintro _ ⟨⟩
          exact within _ _ may
      | @ask task node request next isNext free =>
          have asks : node = home := atHome task _ isNext
          refine ⟨forall_replace isAtHome ?_ fun other _ => atHome other,
            List.forall_mem_cons.mpr ⟨asks, acted⟩⟩
          rintro _ ⟨⟩
          exact asks

/-- The tasks of one node are not overtaken: the published generation never falls. -/
theorem publishedGeneration_le_of_one_node (admits : Admits publication begins) {home : Nat}
    (within : ∀ node program, begins node program → node = home)
    (idle : ∀ task, first.tasks task = none) (shares : Shares first.cluster number)
    (runs : Runs begins Aside first acts before) (moves : Moves begins Aside before act after) :
    before.cluster.publishedGeneration number ≤ after.cluster.publishedGeneration number := by
  rcases le_or_overtaken admits idle shares runs moves with
    notBehind | ⟨publishing, document, fetched, rfl, -, overtaken, -⟩
  · exact notBehind
  · obtain ⟨later, overtaking, between, fetching, earlier, rfl, -, elsewhere, -⟩ := overtaken
    have acted := (node_of_runs within idle (runs.move moves)).2
    refine absurd ?_ elsewhere
    rw [acted publishing (by simp), acted overtaking (by simp)]

end Interleaved

/-- Programs that reload a node. -/
def Reloading (_node : Nat) (program : Program (Except ServiceError Snapshot)) : Prop :=
  ∃ managementSpace, program = (reload managementSpace).run

theorem admits_reloading : Interleaving.Admits publication Reloading := by
  rintro node _ ⟨managementSpace, rfl⟩
  exact conforms_reload

/-- However reloads of nodes that share a store are interleaved, the published generation falls only
when a reload publishes after it was overtaken: another node has published since the reload fetched
what was published.  Even then it does not fall below what the reload fetched. -/
theorem publishedGeneration_falls_only_if_overtaken {number : Nat}
    {first before after : Interleaving (Except ServiceError Snapshot)} {acts : List Act}
    {act : Option Act} (idle : ∀ task, first.tasks task = none)
    (shares : Shares first.cluster number)
    (runs : Interleaving.Runs Reloading Aside first acts before)
    (moves : Interleaving.Moves Reloading Aside before act after) :
    before.cluster.publishedGeneration number ≤ after.cluster.publishedGeneration number ∨
      ∃ publishing document fetched, act = some publishing ∧ publishing.Publishes document ∧
        Overtaken publishing.task publishing.node fetched acts ∧
        fetched ≤ after.cluster.publishedGeneration number :=
  le_or_overtaken admits_reloading idle shares runs moves

/-! ## A reload that is overtaken -/

namespace Delayed

/-- Nodes that share a store in which nothing is published. -/
def nodes : Interleaving (Except ServiceError Snapshot) where
  cluster := { editions := fun number => ⟨.ofNat (number + 1), .epoch⟩ }

/-- One reload of the first node, and two of the second. -/
def begun : Interleaving (Except ServiceError Snapshot) :=
  { nodes with
    tasks := replace (replace (replace nodes.tasks
      0 (some ⟨0, (reload "management").run⟩))
      1 (some ⟨1, (reload "management").run⟩))
      2 (some ⟨1, (reload "management").run⟩) }

/-- The first node is about to publish when the second one reloads twice. -/
def reached : List Act × Interleaving (Except ServiceError Snapshot) :=
  Interleaving.advance 2 20 (Interleaving.advance 1 20 (Interleaving.advance 0 8 ([], begun)))

theorem runs_begun : Interleaving.Runs Reloading Aside nodes [] begun :=
  ((Interleaving.Runs.idle.move (.begin rfl ⟨_, rfl⟩)).move (.begin rfl ⟨_, rfl⟩)).move
    (.begin rfl ⟨_, rfl⟩)

theorem runs_reached : Interleaving.Runs Reloading Aside nodes reached.1 reached.2 :=
  Interleaving.Runs.advance 2 20 (Interleaving.Runs.advance 1 20
    (Interleaving.Runs.advance 0 8 runs_begun))

theorem shares_nodes : Shares nodes.cluster 0 :=
  ⟨fun _ => rfl, ∅, false, rfl⟩

/-- What comes next: the first node publishes what it built before. -/
def published : Act × Interleaving (Except ServiceError Snapshot) :=
  (reached.2.ask? 0).get rfl

theorem moves_published :
    Interleaving.Moves Reloading Aside reached.2 (some published.1) published.2 := by
  have asked : reached.2.ask? 0 = some published := (Option.some_get _).symm
  exact .of_ask? asked

end Delayed

/-- The published generation does fall. -/
theorem publishedGeneration_falls_only_if_overtaken_delayed :
    Interleaving.Moves Reloading Aside Delayed.reached.2 (some Delayed.published.1)
        Delayed.published.2 ∧
      Delayed.reached.2.cluster.publishedGeneration 0 = 2 ∧
      Delayed.published.2.cluster.publishedGeneration 0 = 1 ∧
      ∃ fetched, Overtaken Delayed.published.1.task Delayed.published.1.node fetched
        Delayed.reached.1 := by
  have isNewer : Delayed.reached.2.cluster.publishedGeneration 0 = 2 := by decide +kernel
  have isOlder : Delayed.published.2.cluster.publishedGeneration 0 = 1 := by decide +kernel
  refine ⟨Delayed.moves_published, isNewer, isOlder, ?_⟩
  rcases publishedGeneration_falls_only_if_overtaken (fun _ => rfl) Delayed.shares_nodes
      Delayed.runs_reached Delayed.moves_published with notBehind | overtaken
  · rw [isNewer, isOlder] at notBehind
    exact absurd notBehind (by decide)
  · obtain ⟨_, document, fetched, same, -, overtaken, -⟩ := overtaken
    obtain rfl := Option.some.inj same
    exact ⟨fetched, overtaken⟩

end Reload

end AccessControl
