import AccessControl.Proofs.Errands.Origins

/-!
# Grants of a resolution

Errands of any number of nodes that share a store of published snapshots and a cache, both kept in
memory, take turns, request by request.  A resolution that began long ago may cache its grants after
newer snapshots were installed and the cache was cleared, but it caches them under the revision of the
snapshot that it has read.  So whoever is looked up has the grants under the snapshot that was current
when the resolution read it, whether they were cached or not.
-/

namespace AccessControl

open Cluster

namespace Errand

variable {settings : Nat → Settings} {acts : List Act} {act : Act} {task node shelf cache : Nat}
  {phase : Phase} {progress : Progress} {request : Request} {before after cluster : Cluster}

/-! ## What stores hold -/

/-- Whether the nodes share a store of published snapshots and a cache, both kept in memory, and what
they hold and the nodes work with goes back to the acts. -/
structure Backed (settings : Nat → Settings) (shelf cache : Nat) (acts : List Act)
    (cluster : Cluster) : Prop where
  wiredToShelf : ∀ node, (cluster.nodes node).wiring.snapshots = shelf
  wiredToCache : ∀ node, (cluster.nodes node).wiring.cache = cache
  published : ∃ documents, cluster.Shelves shelf documents ∧
    ∀ document, documents[Snapshot.publishedName]? = some document → IsPublished acts document
  cached : ∃ held, cluster.Caches cache held ∧ ∀ revision name grants,
    GrantCache.get held revision name = some grants → IsGenuine settings acts revision name grants
  snapshots : ∀ node, IsIssued acts (cluster.snapshots node)

/-- What may happen between the requests of errands: entries change, calls are switched off and on
again, and cached grants are lost.  Nothing is published or cached. -/
structure Ambient (before after : Cluster) : Prop extends Reload.Aside before after where
  caches : ∀ number held, before.Caches number held → ∃ left, after.Caches number left ∧
    ∀ revision name grants, GrantCache.get left revision name = some grants →
      GrantCache.get held revision name = some grants

namespace Backed

theorem of_ambient (backed : Backed settings shelf cache acts before)
    (ambient : Ambient before after) : Backed settings shelf cache acts after := by
  obtain ⟨documents, shelves, published⟩ := backed.published
  obtain ⟨held, caches, genuine⟩ := backed.cached
  obtain ⟨left, cachesLeft, isLeft⟩ := ambient.caches cache held caches
  have sameSnapshots : after.snapshots = before.snapshots := by
    funext node
    rw [Cluster.snapshots, ambient.nodes, ← Cluster.snapshots]
  constructor
  · intro node
    rw [ambient.nodes, backed.wiredToShelf]
  · intro node
    rw [ambient.nodes, backed.wiredToCache]
  · exact ⟨documents, ambient.documents _ _ shelves, published⟩
  · exact ⟨left, cachesLeft, fun revision name grants found =>
      genuine revision name grants (isLeft revision name grants found)⟩
  · rw [sameSnapshots]
    exact backed.snapshots

/-- Published documents go back to the acts: the last one was published before, or just now. -/
theorem published_step (backed : Backed settings shelf cache acts cluster)
    (allowed : phase.Allows (settings node) request) :
    ∃ documents, (step node request cluster).2.Shelves shelf documents ∧
      ∀ document, documents[Snapshot.publishedName]? = some document →
        IsPublished (.asked task node request cluster :: acts) document := by
  obtain ⟨documents, shelves, published⟩ := backed.published
  refine ⟨_, shelves.step node request, fun document found => ?_⟩
  by_cases publishes : ∃ written, (Act.asked task node request cluster).Publishes written
  · obtain ⟨written, publishes⟩ := publishes
    have isPersist : request = .call (.persistSnapshot Snapshot.publishedName written) :=
      publishes.request_eq
    rw [isPersist] at allowed
    obtain ⟨-, edition, snapshot, -, rfl, -, readable⟩ := allowed
    have isWritten : document = snapshot.document := by
      rw [Act.Publishes, Act.made?] at publishes
      rw [publishes, Option.elim_some, Made.onDocuments, if_pos (backed.wiredToShelf node)] at found
      simpa using found.symm
    exact ⟨snapshot, isWritten.symm, _, List.mem_cons_self, readable, publishes⟩
  · refine (published document ?_).cons _
    cases isMade : Made.ofRequest? request (step node request cluster).1 with
    | none => rwa [isMade] at found
    | some made =>
        rw [isMade, Option.elim_some, Made.getElem?_onDocuments_of_ne] at found
        · exact found
        · rintro written rfl
          exact publishes ⟨written, isMade⟩

/-- Cached grants go back to the acts: they were cached before, or were resolved just now. -/
theorem cached_step (backed : Backed settings shelf cache acts cluster)
    (knows : Knows settings acts task node phase) (allowed : phase.Allows (settings node) request) :
    ∃ held, (step node request cluster).2.Caches cache held ∧ ∀ revision name grants,
      GrantCache.get held revision name = some grants →
        IsGenuine settings acts revision name grants := by
  obtain ⟨held, caches, genuine⟩ := backed.cached
  refine ⟨_, caches.step node request, fun revision name grants found => ?_⟩
  cases isMade : Made.ofRequest? request (step node request cluster).1 with
  | none =>
      rw [isMade] at found
      exact genuine revision name grants found
  | some made =>
      rw [isMade] at found
      rcases Made.of_get_onCache found with earlier | ⟨seconds, rfl⟩
      · exact genuine revision name grants earlier
      · have isPut : request = .call (.cachePut revision name grants seconds) := by
          cases request with
          | call storeCall =>
              obtain ⟨rfl, -⟩ := Made.mk.inj (Option.some.inj isMade)
              rfl
          | _ => cases isMade
        rw [isPut] at allowed
        obtain ⟨snapshot, user, rfl, rfl, rfl⟩ := allowed
        obtain ⟨⟨issued, -⟩, isFound, -⟩ := knows
        exact ⟨snapshot, issued, rfl, node, user, isFound, rfl⟩

/-- What nodes work with goes back to the acts: an errand installs what it holds. -/
theorem snapshots_step (backed : Backed settings shelf cache acts cluster)
    (knows : Knows settings acts task node phase) (allowed : phase.Allows (settings node) request)
    (other : Nat) : IsIssued acts ((step node request cluster).2.snapshots other) := by
  by_cases installs : ∃ snapshot, request = .install snapshot
  · obtain ⟨snapshot, rfl⟩ := installs
    obtain ⟨document, rfl, decoded⟩ := allowed
    rw [snapshots_install]
    refine forall_replace (fun _ => IsIssued acts) ?_ (fun other _ => backed.snapshots other) other
    exact IsPublished.isIssued knows decoded
  · rw [Cluster.snapshots_step (not_exists.mp installs)]
    exact backed.snapshots other

theorem step (backed : Backed settings shelf cache acts cluster)
    (knows : Knows settings acts task node phase) (allowed : phase.Allows (settings node) request) :
    Backed settings shelf cache (.asked task node request cluster :: acts)
      (step node request cluster).2 where
  wiredToShelf other := by
    rw [(continues_step node request cluster).wiring, backed.wiredToShelf]
  wiredToCache other := by
    rw [(continues_step node request cluster).wiring, backed.wiredToCache]
  published := backed.published_step allowed
  cached := by
    obtain ⟨held, caches, genuine⟩ := backed.cached_step knows allowed
    exact ⟨held, caches, fun revision name grants found => (genuine revision name grants found).cons _⟩
  snapshots other := (backed.snapshots_step knows allowed other).cons _

end Backed

/-! ## What answers tell -/

namespace Knows

variable {snapshot : Snapshot} {name : String}

/-- A task that reads the current snapshot has not read another one before. -/
theorem reads (knows : Knows settings acts task node .idle) (issued : IsIssued acts snapshot) :
    Knows settings (⟨task, node, .current, snapshot⟩ :: acts) task node (.reads snapshot) := by
  refine ⟨issued.cons _, List.mem_cons_self, List.forall_mem_cons.mpr ⟨fun _ _ => rfl, ?_⟩⟩
  intro act acted own isRead
  exact absurd isRead (knows act acted own)

/-- A task that draws a revision has published nothing under it, as no revision is drawn twice. -/
theorem drew {edition : Edition} (recorded : Recorded acts)
    (distinct : Distinct (⟨task, node, .edition, edition⟩ :: acts)) :
    Knows settings (⟨task, node, .edition, edition⟩ :: acts) task node (.drew edition) := by
  refine ⟨⟨_, List.mem_cons_self, rfl, rfl⟩, List.forall_mem_cons.mpr ⟨?_, ?_⟩⟩
  · exact fun _ snapshot issues => nomatch issues.2.request_eq
  · intro issuing acted _ snapshot issues same
    obtain ⟨drawing, isDrawing, -, drawn⟩ := recorded.drawn issuing acted snapshot issues
    rw [same] at drawn
    have isDrawn := List.mem_filterMap.mpr ⟨drawing, isDrawing, drawn⟩
    exact (List.nodup_cons.mp (List.nodup_cons.mp distinct).2).1 isDrawn

theorem found {user : User} (knows : Knows settings acts task node (.reads snapshot)) :
    Knows settings
      (⟨task, node, .call (.findUser (Principal.locator (settings node) name)), .ok (some user)⟩ ::
        acts) task node (.knows snapshot name user none) := by
  refine ⟨⟨knows.1.cons _, knows.2.cons fun _ => nofun⟩, ?_, fun _ => nofun⟩
  exact ⟨_, List.mem_cons_self, rfl, rfl⟩

/-- A task takes genuine grants from the cache. -/
theorem cached {user : User} {grants : Option Grants}
    (knows : Knows settings acts task node (.knows snapshot name user none))
    (backed : Backed settings shelf cache acts cluster)
    (answered : (step node (.call (.cacheGet snapshot.revision name)) cluster).1 = .ok grants) :
    Knows settings (⟨task, node, .call (.cacheGet snapshot.revision name), .ok grants⟩ :: acts) task
      node (.knows snapshot name user grants) := by
  obtain ⟨⟨issued, read⟩, found, -⟩ := knows
  refine ⟨⟨issued.cons _, read.cons fun _ => nofun⟩, found.cons _, ?_⟩
  rintro grants rfl
  obtain ⟨held, caches, genuine⟩ := backed.cached
  rw [← backed.wiredToCache node] at caches
  exact (genuine _ _ _ (caches.of_get answered).symm).cons _

/-- A task fetches what was published. -/
theorem fetched {document : Json} (backed : Backed settings shelf cache acts cluster)
    (answered : (step node (.call (.fetchSnapshot Snapshot.publishedName)) cluster).1 =
      .ok (some document)) :
    Knows settings
      (⟨task, node, .call (.fetchSnapshot Snapshot.publishedName), .ok (some document)⟩ :: acts) task
      node (.holds document) := by
  obtain ⟨documents, shelves, published⟩ := backed.published
  rw [← backed.wiredToShelf node] at shelves
  exact (published document (shelves.of_fetch answered).symm).cons _

/-- What a task knows when it was answered. -/
theorem next {answer : request.Answer} (knows : Knows settings acts task node progress.phase)
    (recorded : Recorded acts) (distinct : Distinct (⟨task, node, request, answer⟩ :: acts))
    (backed : Backed settings shelf cache acts cluster)
    (allowed : progress.phase.Allows (settings node) request)
    (answered : (step node request cluster).1 = answer) :
    Knows settings (⟨task, node, request, answer⟩ :: acts) task node
      (progress.next request answer).phase := by
  obtain ⟨phase, isRegular⟩ := progress
  dsimp only at knows allowed
  -- an act that neither reads nor publishes leaves what was known before
  have kept (notCurrent : request ≠ .current)
      (notPersist : ∀ document, ¬ (Act.mk task node request answer).Publishes document) :
      Knows settings (⟨task, node, request, answer⟩ :: acts) task node phase :=
    knows.cons fun _ => ⟨notCurrent, fun snapshot issues => notPersist _ issues.2⟩
  cases request with
  | current =>
      rcases allowed with rfl | ⟨document, rfl⟩
      · exact knows.reads (answered ▸ backed.snapshots node)
      · exact IsPublished.cons knows _
  | edition => exact drew recorded distinct
  | call storeCall =>
      cases storeCall with
      | findUser locator =>
          cases answer with
          | error error => exact kept nofun fun _ publishes => nomatch publishes.request_eq
          | ok found =>
              cases found with
              | none => exact kept nofun fun _ publishes => nomatch publishes.request_eq
              | some user =>
                  obtain ⟨snapshot, name, rfl, rfl⟩ := allowed
                  exact knows.found
      | cacheGet revision name =>
          cases answer with
          | error error => exact kept nofun fun _ publishes => nomatch publishes.request_eq
          | ok grants =>
              obtain ⟨snapshot, user, rfl, rfl⟩ := allowed
              exact knows.cached backed answered
      | fetchSnapshot name =>
          cases answer with
          | error error => exact kept nofun fun _ publishes => nomatch publishes.request_eq
          | ok fetched =>
              cases fetched with
              | none => exact kept nofun fun _ publishes => nomatch publishes.request_eq
              | some document =>
                  obtain rfl : name = Snapshot.publishedName := allowed
                  exact fetched backed answered
      | persistSnapshot name document =>
          cases answer with
          | error error => exact kept nofun fun _ publishes => nomatch publishes
          | ok _ =>
              obtain ⟨rfl, edition, snapshot, -, rfl, -, readable⟩ := allowed
              exact ⟨snapshot, rfl, _, List.mem_cons_self, readable, rfl⟩
      | loadActiveEntries space subpath type =>
          cases answer <;> exact kept nofun fun _ publishes => nomatch publishes.request_eq
      | _ => exact kept nofun fun _ publishes => nomatch publishes.request_eq
  | _ => exact kept nofun fun _ publishes => nomatch publishes.request_eq

end Knows

/-! ## Interleaved errands -/

/-- Whether all documents that the acts were listed are in normal form, as they are kept. -/
def Regular (acts : List Act) : Prop := ∀ document ∈ acts.flatMap Act.listed, document.IsNormal

theorem isRegular_next (regular : progress.isRegular)
    (normal : ∀ document ∈ act.listed, document.IsNormal) :
    (progress.next act.request act.answer).isRegular := by
  obtain ⟨task, node, request, answer⟩ := act
  cases request with
  | call storeCall =>
      cases storeCall with
      | loadActiveEntries space subpath type =>
          cases answer with
          | error error => exact regular
          | ok entries => exact ⟨regular, List.forall_mem_map.mp normal⟩
      | findUser locator | fetchSnapshot name =>
          cases answer with
          | error error => exact regular
          | ok found => cases found <;> exact regular
      | cacheGet revision name => cases answer <;> exact regular
      | persistSnapshot name document => cases answer <;> exact regular
      | _ => exact regular
  | _ => exact regular

theorem isRegular_reached {own : Settings} (regular : Regular acts) (task : Nat) :
    ((conduct own).reached task acts).isRegular := by
  induction acts with
  | nil => trivial
  | cons act earlier ih =>
      rw [Regular, List.flatMap_cons] at regular
      obtain ⟨normal, regular⟩ := List.forall_mem_append.mp regular
      rw [Protocol.reached]
      split
      · exact isRegular_next (ih regular) normal
      · exact ih regular

open Interleaving

variable {first state middle : Interleaving Outcome}

/-- What holds of interleaved errands: whatever there is goes back to the acts, and the tasks know what
their phases say. -/
structure Sound (settings : Nat → Settings) (shelf cache : Nat) (acts : List Act)
    (state : Interleaving Outcome) : Prop where
  recorded : Recorded acts
  backed : Backed settings shelf cache acts state.cluster
  knows : ∀ task running, state.tasks task = some running →
    Knows settings acts task running.node
      ((conduct (settings running.node)).reached task acts).phase

theorem Sound.begin {program : Program Outcome} (sound : Sound settings shelf cache acts state)
    (silent : ∀ act ∈ acts, act.task ≠ task)
    (start : (conduct (settings node)).reached task acts = (conduct (settings node)).start) :
    Sound settings shelf cache acts
      { state with tasks := replace state.tasks task (some ⟨node, program⟩) } where
  recorded := sound.recorded
  backed := sound.backed
  knows := by
    refine forall_running_replace (fun task running => Knows settings acts task running.node
      ((conduct (settings running.node)).reached task acts).phase) ?_ fun other _ => sound.knows other
    dsimp only
    rw [start]
    exact fun act acted own => absurd own (silent act acted)

theorem Sound.ask {next : request.Answer → Program Outcome}
    (sound : Sound settings shelf cache acts state)
    (distinct : Distinct (.asked task node request state.cluster :: acts))
    (isNext : state.tasks task = some ⟨node, .ask request next⟩)
    (allowed : ((conduct (settings node)).reached task acts).phase.Allows (settings node) request) :
    Sound settings shelf cache (.asked task node request state.cluster :: acts)
      { cluster := (step node request state.cluster).2
        tasks := replace state.tasks task
          (some ⟨node, next (step node request state.cluster).1⟩) } := by
  have knows := sound.knows task _ isNext
  have recorded : Recorded (.asked task node request state.cluster :: acts) :=
    sound.recorded.cons distinct knows allowed
  refine ⟨recorded, sound.backed.step knows allowed, ?_⟩
  refine forall_running_replace (fun task running => Knows settings (_ :: acts) task running.node
    ((conduct (settings running.node)).reached task (_ :: acts)).phase) ?_ ?_
  · dsimp only
    rw [Protocol.reached_cons_own]
    exact knows.next sound.recorded distinct sound.backed allowed rfl
  · intro other differs running isRunning
    rw [Protocol.reached_cons_of_ne differs]
    exact (sound.knows other running isRunning).cons fun own => absurd own.symm differs

theorem Sound.move {act : Option Act} (sound : Sound settings shelf cache acts middle)
    (bound : middle.Bound (fun node => conduct (settings node)) (fun node => Concludes (settings node))
      acts)
    (begun : ∀ act ∈ acts, ∃ rest, middle.tasks act.task = some ⟨act.node, rest⟩)
    (moves : Moves (fun node => IsErrand (settings node)) Ambient middle act state)
    (distinct : Distinct (act.toList ++ acts)) (regular : Regular acts) :
    Sound settings shelf cache (act.toList ++ acts) state := by
  cases moves with
  | change ambient => exact ⟨sound.recorded, sound.backed.of_ambient ambient, sound.knows⟩
  | @begin task node program isNew may =>
      refine sound.begin (fun act acted own => ?_) (bound.of_none isNew node)
      obtain ⟨rest, isRunning⟩ := begun act acted
      rw [own, isNew] at isRunning
      cases isRunning
  | @ask task node request next isNext free =>
      exact sound.ask distinct isNext ((bound.of_some isNext).1 (isRegular_reached regular task))

/-- Whether nodes begin with the empty snapshot, share a store of published snapshots in which nothing
is published, and share a cache that is empty.  Both are kept in memory. -/
structure Fresh (shelf cache : Nat) (first : Interleaving Outcome) : Prop where
  idle : ∀ task, first.tasks task = none
  wiredToShelf : ∀ node, (first.cluster.nodes node).wiring.snapshots = shelf
  wiredToCache : ∀ node, (first.cluster.nodes node).wiring.cache = cache
  unpublished : ∃ documents, first.cluster.Shelves shelf documents ∧
    documents[Snapshot.publishedName]? = none
  uncached : first.cluster.Caches cache ∅
  snapshots : ∀ node, first.cluster.snapshots node = .empty

theorem Fresh.sound (fresh : Fresh shelf cache first) : Sound settings shelf cache [] first where
  recorded := ⟨List.forall_mem_nil _, List.forall_mem_nil _⟩
  backed := by
    obtain ⟨documents, shelves, unpublished⟩ := fresh.unpublished
    refine ⟨fresh.wiredToShelf, fresh.wiredToCache, ⟨documents, shelves, fun document found => ?_⟩,
      ⟨∅, fresh.uncached, fun revision name grants found => ?_⟩, fun node => .inl (fresh.snapshots node)⟩
    · rw [unpublished] at found
      cases found
    · simp [GrantCache.get] at found
  knows task running isRunning := by
    rw [fresh.idle task] at isRunning
    cases isRunning

namespace Late

/-- A permission to view the posts of a space, in normal form. -/
def permission : Json :=
  .obj [("actions", .arr [.str "view"]), ("is_active", .bool true),
    ("resource_types", .arr [.str "content"]), ("shortname", .str "read"),
    ("subpaths", .obj [("acme", .arr [.str "posts"])])]

/-- The role that holds the permission. -/
def role : Json :=
  .obj [("is_active", .bool true), ("permissions", .arr [.str "read"]), ("shortname", .str "reader")]

/-- The record of a user who holds the role. -/
def users : EntryTable :=
  let alice : Json := .obj [("roles", .arr [.str "reader"]), ("shortname", .str "alice")]
  Std.ExtTreeMap.ofList
    [((⟨"management", "users", "alice", .user⟩ : Locator), (⟨true, alice, []⟩ : StoredEntry))]

/-- Nodes that share all stores. -/
def nodes : Interleaving Outcome where
  cluster := {
    entryStores := fun _ => { store := .memory users }
    listings := fun _ => Std.ExtTreeMap.ofList
      [("permissions", [(⟨"read", permission⟩ : ListedEntry)]), ("roles", [⟨"reader", role⟩])]
    editions := fun number => ⟨.ofNat (number + 1), .epoch⟩ }

def reloading : Program Outcome := .reloaded <$> (reload "management").run

def adopting : Program Outcome := .adopted <$> adopt.run

def resolving : Program Outcome := .resolved "alice" <$> (Principal.load {} "alice").run

/-- The errands of two nodes, by number: the first one reloads, looks the user up and reloads again; the
second one adopts what the first one has published, and looks the user up. -/
def begun : Interleaving Outcome :=
  { nodes with
    tasks := replace (replace (replace (replace (replace nodes.tasks
      0 (some ⟨0, reloading⟩))
      1 (some ⟨1, adopting⟩))
      2 (some ⟨0, resolving⟩))
      3 (some ⟨0, reloading⟩))
      4 (some ⟨1, resolving⟩) }

/-- The first node has read its snapshot and found the user when it reloads again and clears the cache.
After that it caches grants under the snapshot that it has left behind, and the second node, which still
works with that snapshot, takes them from the cache. -/
def reached : List Act × Interleaving Outcome :=
  advance 4 20 (advance 2 20 (advance 3 20 (advance 2 2 (advance 1 20 (advance 0 20 ([], begun))))))

theorem runs_begun :
    Runs (fun node => IsErrand (nodes.cluster.nodes node).settings) Ambient nodes [] begun :=
  ((((Runs.idle.move (.begin rfl .reload)).move (.begin rfl .adopt)).move
    (.begin rfl (.resolve "alice"))).move (.begin rfl .reload)).move (.begin rfl (.resolve "alice"))

theorem runs_reached :
    Runs (fun node => IsErrand (nodes.cluster.nodes node).settings) Ambient nodes reached.1 reached.2 :=
  .advance 4 20 (.advance 2 20 (.advance 3 20 (.advance 2 2 (.advance 1 20 (.advance 0 20 runs_begun)))))

end Late

end Errand

end AccessControl
