import AccessControl.Proofs.Cluster.Coherence
import AccessControl.Proofs.Cluster.Command

/-!
# Transparent caches

Whether nodes cache cannot be told from what they answer.  In a session nodes are asked one after the
other, and in between entries are saved and deleted, and cached grants run out.  A session is held twice,
the second time without caching: after each turn the two clusters are twins, and the cache of the first
one is coherent.
-/

namespace AccessControl

/-! ## Sessions -/

/-- Lets grants run out that a cache keeps in memory, but for those whose keys pass a test. -/
def Cluster.loseGrants (number : Nat) (isLeft : CacheKey → Bool) : StateM Cluster Unit := do
  match ((← get).cacheStores number).store with
  | .memory cache => putCache number (cache.left isLeft)
  | .keyspace .. => return ()

/-- A turn of a session: a node is asked, or an entry is deleted from the store of a node, or grants run
out in a cache. -/
inductive Turn where
  | ask (node : Nat) (command : Command)
  | delete (node : Nat) (locator : Locator)
  | lose (cache : Nat) (isLeft : CacheKey → Bool)

/-- What a turn is answered with. -/
inductive Reply where
  | answered (command : Command) (answer : Except ServiceError command.Answer)
  | deleted (found : Bool)
  | lost

namespace Turn

/-- The node whose turn it is, if it is one's. -/
def node? : Turn → Option Nat
  | ask node _ | delete node _ => some node
  | lose .. => none

/-- Lets a node have its turn. -/
def take : Turn → StateM Cluster Reply
  | ask node command => do return .answered command (← Cluster.carryOut node command)
  | delete node locator => do
    return .deleted (← Cluster.deleteEntry ((← get).nodes node).wiring.entries locator)
  | lose cache isLeft => do
    Cluster.loseGrants cache isLeft
    return .lost

/-- Whether no user's record is saved or deleted, and what is saved is in normal form, as it is kept. -/
def SparesUsers : Turn → Prop
  | ask _ (.save _ _ document) =>
    document.IsNormal ∧ ∀ entry, Entry.decoder document = .ok entry → entry.type ≠ .user
  | ask _ _ | lose .. => True
  | delete _ locator => locator.type ≠ .user

end Turn

namespace Cluster

/-- What the turns of a session are answered with. -/
def replies : List Turn → Cluster → List Reply
  | [], _ => []
  | turn :: later, cluster => (turn.take cluster).1 :: replies later (turn.take cluster).2

/-- What the turns of a session leave behind. -/
def closing (turns : List Turn) (cluster : Cluster) : Cluster :=
  turns.foldl (fun cluster turn => (turn.take cluster).2) cluster

/-- The same cluster with nodes that do not cache. -/
def uncached (cluster : Cluster) : Cluster :=
  { cluster with
    nodes := fun node =>
      let held := cluster.nodes node
      { held with settings := { held.settings with cacheSeconds := 0 } } }

/-- How a session opens: the nodes share stores that are kept in memory and answer, and nothing is
published or cached yet. -/
structure Opens (cluster : Cluster) (wiring : Wiring) (table : EntryTable) : Prop where
  wired : ∀ node, (cluster.nodes node).wiring = wiring
  answers : ∀ kind, cluster.fault? wiring kind = none
  entries : (cluster.entryStores wiring.entries).store = .memory table
  normal : cluster.KeepsNormal wiring.entries table
  fresh : cluster.Fresh wiring.snapshots .memory
  cache : cluster.Caches wiring.cache ∅

/-- The setup of a session, in which those nodes cache that have a turn and whose settings let them. -/
def setup (cluster : Cluster) (wiring : Wiring) (table : EntryTable) (turns : List Turn) : Setup where
  wiring := wiring
  settings node := (cluster.nodes node).settings
  caches node :=
    (cluster.nodes node).settings.cacheSeconds ≠ 0 ∧ ∃ turn ∈ turns, turn.node? = some node
  records node name :=
    table.find User.decoder (Principal.locator (cluster.nodes node).settings name)

variable {α β : Type} {node bound : Nat} {one other oneAfter otherAfter : Cluster} {wiring : Wiring}
  {setup : Setup} {otherSettings : Settings} {table : EntryTable} {turns : List Turn}
  {cluster : Cluster} {command : Command} {user : String}

/-! ## Lost grants -/

/-- What changes nothing, save that cached grants may be lost. -/
structure LosesGrants (before after : Cluster) : Prop extends StoreChange before after where
  documents : ∀ number medium documents, before.Holds number medium documents →
    after.Holds number medium documents
  caches : ∀ number held, before.Caches number held → ∃ left, after.Caches number left ∧
    ∀ revision name grants, left.get revision name = some grants →
      held.get revision name = some grants

theorem losesGrants_loseGrants (number : Nat) (isLeft : CacheKey → Bool) (cluster : Cluster) :
    LosesGrants cluster (loseGrants number isLeft cluster).2 := by
  cases kept : (cluster.cacheStores number).store with
  | memory cache =>
      have lost : loseGrants number isLeft cluster = putCache number (cache.left isLeft) cluster := by
        simp only [loseGrants, bind, StateT.bind, get, getThe, MonadStateOf.get, StateT.get, pure, kept]
      rw [lost]
      refine ⟨⟨rfl, rfl, fault?_putCache _ _, rfl, rfl, rfl⟩,
        fun _ _ _ holds => holds.putCache number _, fun other held isHeld => ?_⟩
      by_cases same : other = number
      · subst same
        cases kept.symm.trans isHeld
        exact ⟨_, caches_putCache, fun _ _ _ => GrantCache.of_get_left⟩
      · refine ⟨held, ?_, fun _ _ _ => id⟩
        exact (congrArg Switched.store (replace_of_ne _ _ same)).trans isHeld
  | keyspace keyPrefix isUp =>
      simp only [loseGrants, bind, StateT.bind, get, getThe, MonadStateOf.get, StateT.get, pure, kept]
      exact ⟨.refl cluster, fun _ _ _ => id, fun _ held isHeld => ⟨held, isHeld, fun _ _ _ => id⟩⟩

theorem Works.of_loses {documents : Dict String Json} (works : one.Works wiring table documents)
    (loses : LosesGrants one oneAfter) : oneAfter.Works wiring table documents where
  wired node := by rw [loses.nodes, works.wired]
  answers kind := by rw [loses.faults, works.answers]
  entries := by rw [loses.entryStores, works.entries]
  shelves := loses.documents _ .memory _ works.shelves
  caches := by
    rcases works.caches with ⟨held, isHeld⟩
    rcases loses.caches _ held isHeld with ⟨left, isLeft, -⟩
    exact ⟨left, isLeft⟩

/-- Twins stay twins when both lose grants. -/
theorem Twins.of_loses (twins : Twins wiring table one other) (loses : LosesGrants one oneAfter)
    (otherLoses : LosesGrants other otherAfter) : Twins wiring table oneAfter otherAfter where
  works := by
    rcases twins.works with ⟨documents, works, otherWorks⟩
    exact ⟨documents, works.of_loses loses, otherWorks.of_loses otherLoses⟩
  settings node := by rw [loses.nodes, otherLoses.nodes, twins.settings]
  snapshots := by
    rw [loses.toStoreChange.snapshots, otherLoses.toStoreChange.snapshots, twins.snapshots]
  listings := by rw [loses.listings, otherLoses.listings, twins.listings]
  editions := by rw [loses.editions, otherLoses.editions, twins.editions]
  drawn := by rw [loses.drawn, otherLoses.drawn, twins.drawn]

/-- What is left of genuine grants is genuine. -/
theorem Coherent.of_loses {last : Option Snapshot} (coherent : Coherent setup last one)
    (loses : LosesGrants one oneAfter) : Coherent setup last oneAfter := by
  have continues := loses.continues
  have uses (snapshot : Snapshot) (isUsed : oneAfter.Uses last snapshot) : one.Uses last snapshot := by
    rwa [Uses, loses.toStoreChange.snapshots] at isUsed
  have publication : SamePublication one oneAfter :=
    ⟨continues.wiring, loses.documents, loses.toStoreChange.snapshots, continues.editions,
      continues.drawn⟩
  rcases coherent.cached with ⟨held, isHeld, genuine⟩
  rcases loses.caches _ held isHeld with ⟨left, isLeft, earlier⟩
  exact {
    configured := fun node => by rw [continues.settings, coherent.configured]
    follows := coherent.follows.of_same publication
    unique := fun first second usesFirst usesSecond =>
      coherent.unique first second (uses first usesFirst) (uses second usesSecond)
    cached := ⟨left, isLeft, genuine.mono continues earlier fun used isUsed => .inl (uses used isUsed)⟩ }

/-! ## What sessions go on with -/

theorem continues_saveEntry (number : Nat) (space subpath : String) (document : Json) :
    Continues cluster (saveEntry number space subpath document cluster).2 := by
  cases kept : (cluster.entryStores number).store with
  | memory table =>
      rw [saveEntry_of_memory kept]
      cases table.save space subpath document with
      | error error => exact .refl cluster
      | ok saved => exact continues_putEntries number saved.2
  | database isOpen =>
      simp only [saveEntry, bind, StateT.bind, get, getThe, MonadStateOf.get, StateT.get, pure, kept]
      exact ⟨fun _ => rfl, fun _ => rfl, rfl, rfl, rfl, Nat.le_refl _⟩

theorem continues_deleteEntry (number : Nat) (locator : Locator) :
    Continues cluster (deleteEntry number locator cluster).2 := by
  cases kept : (cluster.entryStores number).store with
  | memory table =>
      rw [deleteEntry_of_memory kept]
      exact continues_putEntries number (table.delete locator).2
  | database isOpen =>
      simp only [deleteEntry, bind, StateT.bind, get, getThe, MonadStateOf.get, StateT.get, pure, kept]
      exact .refl cluster

theorem continues_carryOut (node : Nat) (command : Command) (cluster : Cluster) :
    Continues cluster (carryOut node command cluster).2 := by
  change Continues cluster (carryOutAs node (cluster.nodes node).settings (cluster.nodes node).wiring
    command cluster).2
  cases command with
  | save space subpath document => exact continues_saveEntry _ space subpath document
  | _ => exact continues_operate node _ cluster

theorem continues_take (turn : Turn) (cluster : Cluster) :
    Continues cluster (turn.take cluster).2 := by
  cases turn with
  | ask node command => exact continues_carryOut node command cluster
  | delete node locator => exact continues_deleteEntry _ locator
  | lose cache isLeft => exact (losesGrants_loseGrants cache isLeft cluster).continues

/-- Only so many snapshots are drawn until a session ends. -/
theorem drawn_le_closing : cluster.drawn ≤ (closing turns cluster).drawn := by
  induction turns generalizing cluster with
  | nil => exact Nat.le_refl _
  | cons turn later ih => exact (continues_take turn cluster).drawn.trans ih

/-! ## Two sessions abreast -/

/-- What two clusters have in common while they go through the same session, the second one without
caching.  The revisions below the bound are those that are drawn in the session. -/
structure Abreast (setup : Setup) (bound : Nat) (table : EntryTable) (one other : Cluster) : Prop where
  twins : Twins setup.wiring table one other
  coherent : ∃ last, Coherent setup last one
  finds : setup.Finds table
  normal : one.KeepsNormal setup.wiring.entries table
  anew : one.DrawsAnew bound

/-- Whether two clusters have answered alike and are abreast of each other after that. -/
structure EndAbreast (setup : Setup) (bound : Nat) (ended otherEnded : α × Cluster) : Prop where
  same : otherEnded.1 = ended.1
  abreast : ∃ table, Abreast setup bound table ended.2 otherEnded.2

/-- Operations are answered alike if their first parts are, and what follows only depends on that. -/
theorem operate_bind_congr {first second : Operation α} {next : α → Operation β}
    (same : (operate node second other).1 = (operate node first one).1)
    (later : ∀ value one other,
      (operate node (next value) other).1 = (operate node (next value) one).1) :
    (operate node (second >>= next) other).1 = (operate node (first >>= next) one).1 := by
  rw [operate_bind, operate_bind]
  cases ran : operate node first one with
  | mk answer after =>
      cases otherRan : operate node second other with
      | mk otherAnswer otherAfter =>
          rw [ran, otherRan] at same
          obtain rfl : otherAnswer = answer := same
          cases otherAnswer with
          | error error => rfl
          | ok value => exact later value after otherAfter

namespace Abreast

theorem carryOut_one (abreast : Abreast setup bound table one other) :
    carryOut node command one =
      carryOutAs node (setup.settings node) setup.wiring command one := by
  obtain ⟨last, coherent⟩ := abreast.coherent
  obtain ⟨documents, works, -⟩ := abreast.twins.works
  rw [← coherent.configured node, ← works.wired node]
  rfl

theorem carryOut_other (abreast : Abreast setup bound table one other) :
    carryOut node command other =
      carryOutAs node { setup.settings node with cacheSeconds := 0 } setup.wiring command other := by
  obtain ⟨last, coherent⟩ := abreast.coherent
  obtain ⟨documents, -, works⟩ := abreast.twins.works
  rw [← coherent.configured node, ← abreast.twins.settings, ← works.wired node]
  rfl

/-- What goes on with the same entries keeps sessions abreast, as far as the cache is coherent. -/
theorem of_continues (abreast : Abreast setup bound table one other)
    (continues : Continues one oneAfter) (twins : Twins setup.wiring table oneAfter otherAfter)
    (coherent : ∃ last, Coherent setup last oneAfter) :
    Abreast setup bound table oneAfter otherAfter where
  twins := twins
  coherent := coherent
  finds := abreast.finds
  normal := ⟨abreast.normal.stored, by rw [continues.listings]; exact abreast.normal.listed⟩
  anew := ⟨by rw [continues.editions]; exact abreast.anew.notNil,
    by rw [continues.editions]; exact abreast.anew.distinct⟩

/-! ### Entries -/

/-- Other entries keep sessions abreast, if all users are found as before. -/
theorem putEntries (abreast : Abreast setup bound table one other) {changed : EntryTable}
    (found : ∀ space name,
      changed.find User.decoder ⟨space, ResourceType.usersSubpath, name, .user⟩ =
        table.find User.decoder ⟨space, ResourceType.usersSubpath, name, .user⟩)
    (normal : ∀ (locator : Locator) (stored : StoredEntry), changed[locator]? = some stored →
      stored.document.IsNormal) :
    Abreast setup bound changed (Cluster.putEntries setup.wiring.entries changed one).2
      (Cluster.putEntries setup.wiring.entries changed other).2 where
  twins := abreast.twins.putEntries changed
  coherent := by
    obtain ⟨last, coherent⟩ := abreast.coherent
    have same : SamePublication one (Cluster.putEntries setup.wiring.entries changed one).2 :=
      .of_stores (fun _ => rfl) (fun _ => rfl) (fun _ => rfl) rfl rfl rfl rfl
    exact ⟨last, coherent.of_uses (coherent.follows.of_same same) (continues_putEntries _ _)
      (fun _ => id) fun _ => id⟩
  finds node name := (found _ name).trans (abreast.finds node name)
  normal := ⟨normal, abreast.normal.listed⟩
  anew := ⟨abreast.anew.notNil, abreast.anew.distinct⟩

theorem save (abreast : Abreast setup bound table one other) {space subpath : String}
    {document : Json} (isNormal : document.IsNormal)
    (spares : ∀ entry, Entry.decoder document = .ok entry → entry.type ≠ .user) :
    EndAbreast setup bound (saveEntry setup.wiring.entries space subpath document one)
      (saveEntry setup.wiring.entries space subpath document other) := by
  obtain ⟨documents, works, otherWorks⟩ := abreast.twins.works
  rw [saveEntry_of_memory works.entries, saveEntry_of_memory otherWorks.entries]
  cases saved : table.save space subpath document with
  | error error => exact ⟨rfl, table, abreast⟩
  | ok result =>
      refine ⟨rfl, result.2, abreast.putEntries (fun space name => ?_) ?_⟩
      · exact EntryTable.find_of_save saved spares
      · intro locator stored held
        rcases EntryTable.stamped_or_found_of_save saved held with ⟨rfl, -⟩ | before
        · exact isNormal
        · exact abreast.normal.stored locator stored before

theorem delete (abreast : Abreast setup bound table one other) {locator : Locator}
    (spares : locator.type ≠ .user) :
    EndAbreast setup bound (deleteEntry setup.wiring.entries locator one)
      (deleteEntry setup.wiring.entries locator other) := by
  obtain ⟨documents, works, otherWorks⟩ := abreast.twins.works
  rw [deleteEntry_of_memory works.entries, deleteEntry_of_memory otherWorks.entries]
  refine ⟨rfl, _, abreast.putEntries (fun space name => EntryTable.find_of_delete spares) ?_⟩
  intro locator stored held
  exact abreast.normal.stored locator stored (EntryTable.found_of_delete held)

/-! ### Snapshots -/

theorem reload (abreast : Abreast setup bound table one other) (managementSpace : String)
    (within : (operate node (reload managementSpace) one).2.drawn ≤ bound) :
    EndAbreast setup bound (operate node (AccessControl.reload managementSpace) one)
      (operate node (AccessControl.reload managementSpace) other) := by
  obtain ⟨same, twins⟩ := abreast.twins.operate node (asksOnly_reload managementSpace)
  refine ⟨same, table, abreast.of_continues (continues_operate ..) twins ?_⟩
  obtain ⟨last, coherent⟩ := abreast.coherent
  obtain ⟨documents, works, -⟩ := abreast.twins.works
  have continues := continues_operate node (AccessControl.reload managementSpace) one
  obtain ⟨calls, ran⟩ := exists_ran node (AccessControl.reload managementSpace) one
  cases answered : operate node (AccessControl.reload managementSpace) one with
  | mk answer after =>
      rw [answered] at ran continues within
      cases answer with
      | ok snapshot =>
          exact ⟨some snapshot, coherent.of_reload abreast.anew within ran fun type document =>
            abreast.normal.of_lists works ran⟩
      | error error =>
          have same := failsSafely_reload _ node one error after answered
          exact ⟨last, coherent.of_same same continues⟩

theorem adopt (abreast : Abreast setup bound table one other) :
    EndAbreast setup bound (operate node adopt one) (operate node AccessControl.adopt other) := by
  obtain ⟨same, twins⟩ := abreast.twins.operate node
    (asksOnly_adopt.mono fun _ => Request.AvoidsCache.avoidsGrants)
  obtain ⟨last, coherent⟩ := abreast.coherent
  exact ⟨same, table,
    abreast.of_continues (continues_operate ..) twins ⟨last, coherent.of_adopt node⟩⟩

/-! ### Questions -/

/-- The second cluster answers from its records and snapshots, as nothing is cached. -/
theorem attends_other (abreast : Abreast setup bound table one other) (name : String) :
    other.Attends node { setup.settings node with cacheSeconds := 0 } table (one.snapshots node)
      name := by
  obtain ⟨documents, -, works⟩ := abreast.twins.works
  exact {
    current := congrFun abreast.twins.snapshots node
    answers := fun kind => by rw [works.wired, works.answers]
    entries := by rw [works.wired, works.entries]
    coherent := fun _ _ => .inl rfl }

theorem load_eq (abreast : Abreast setup bound table one other) (covers : setup.Covers node)
    (name : String) :
    (operate node (Principal.load { setup.settings node with cacheSeconds := 0 } name) other).1 =
      (operate node (Principal.load (setup.settings node) name) one).1 := by
  obtain ⟨last, coherent⟩ := abreast.coherent
  obtain ⟨documents, works, -⟩ := abreast.twins.works
  rw [(abreast.attends_other name).load, (coherent.attends works abreast.finds covers name).load]
  rfl

theorem checkAccess_eq (abreast : Abreast setup bound table one other) (covers : setup.Covers node)
    (request : AccessRequest) :
    (operate node (checkAccess { setup.settings node with cacheSeconds := 0 } request) other).1 =
      (operate node (checkAccess (setup.settings node) request) one).1 := by
  obtain ⟨last, coherent⟩ := abreast.coherent
  obtain ⟨documents, works, -⟩ := abreast.twins.works
  rw [(abreast.attends_other request.user).checkAccess,
    (coherent.attends works abreast.finds covers request.user).checkAccess]
  rfl

/-- Questions about users keep sessions abreast. -/
theorem question (abreast : Abreast setup bound table one other) (alike : setup.Alike)
    (covers : setup.Covers node) {asked otherAsked : Operation α}
    (asks : asked.AsksOnly Request.Inquires) (otherAsks : otherAsked.AsksOnly Request.Inquires)
    (gains : GainsGrants (setup.settings node) node user one (operate node asked one).2)
    (otherGains : GainsGrants otherSettings node user other (operate node otherAsked other).2) :
    Abreast setup bound table (operate node asked one).2 (operate node otherAsked other).2 := by
  have change := storeChange_operate node asks one
  have otherChange := storeChange_operate node otherAsks other
  obtain ⟨last, coherent⟩ := abreast.coherent
  obtain ⟨documents, works, -⟩ := abreast.twins.works
  exact abreast.of_continues change.continues
    (abreast.twins.of_gains gains otherGains change otherChange)
    ⟨last, coherent.of_gains alike works abreast.finds covers gains change.continues⟩

/-- What is made of a user's grants is made alike by both clusters. -/
theorem map_load (abreast : Abreast setup bound table one other) (alike : setup.Alike)
    (covers : setup.Covers node) (name : String) (answer : Principal → α) :
    EndAbreast setup bound
      (operate node (Principal.load (setup.settings node) name >>= fun principal =>
        pure (answer principal)) one)
      (operate node (Principal.load { setup.settings node with cacheSeconds := 0 } name >>=
        fun principal => pure (answer principal)) other) where
  same := operate_bind_congr (abreast.load_eq covers name) fun _ _ _ => rfl
  abreast := by
    have asks (settings : Settings) :
        (Principal.load settings name >>= fun principal => pure (answer principal)).AsksOnly
          Request.Inquires :=
      .bind asksOnly_load fun _ => .pure _
    exact ⟨table, abreast.question alike covers (asks _) (asks _)
      (gainsGrants_load.bind fun _ => .pure _) (gainsGrants_load.bind fun _ => .pure _)⟩

theorem check (abreast : Abreast setup bound table one other) (alike : setup.Alike)
    (covers : setup.Covers node) (request : AccessRequest) :
    EndAbreast setup bound (operate node (checkAccess (setup.settings node) request) one)
      (operate node (checkAccess { setup.settings node with cacheSeconds := 0 } request) other) where
  same := abreast.checkAccess_eq covers request
  abreast := ⟨table, abreast.question alike covers asksOnly_checkAccess asksOnly_checkAccess
    gainsGrants_checkAccess gainsGrants_checkAccess⟩

theorem require (abreast : Abreast setup bound table one other) (alike : setup.Alike)
    (covers : setup.Covers node) (request : AccessRequest) :
    EndAbreast setup bound (operate node (requireAccess (setup.settings node) request) one)
      (operate node (requireAccess { setup.settings node with cacheSeconds := 0 } request)
        other) where
  same := by
    refine operate_bind_congr (abreast.checkAccess_eq covers request) fun allowed _ _ => ?_
    cases allowed <;> rfl
  abreast := by
    have asks (settings : Settings) : (requireAccess settings request).AsksOnly Request.Inquires := by
      refine .bind asksOnly_checkAccess fun allowed => ?_
      cases allowed with
      | true => exact .pure ()
      | false => exact .ofExcept (.error .notAuthorized)
    exact ⟨table, abreast.question alike covers (asks _) (asks _) gainsGrants_requireAccess
      gainsGrants_requireAccess⟩

/-! ### Turns -/

/-- Whatever a node is asked, both clusters answer it alike. -/
theorem carryOut (abreast : Abreast setup bound table one other) (alike : setup.Alike)
    (covers : setup.Covers node) (spares : (Turn.ask node command).SparesUsers)
    (within : (carryOut node command one).2.drawn ≤ bound) :
    EndAbreast setup bound (Cluster.carryOut node command one)
      (Cluster.carryOut node command other) := by
  rw [abreast.carryOut_one] at within ⊢
  rw [abreast.carryOut_other]
  cases command with
  | save space subpath document => exact abreast.save spares.1 spares.2
  | reload => exact abreast.reload _ within
  | adopt => exact abreast.adopt
  | check request => exact abreast.check alike covers request
  | require request => exact abreast.require alike covers request
  | checkSpace user space => exact abreast.map_load alike covers user _
  | grants user => exact abreast.map_load alike covers user _
  | policies user space subpath => exact abreast.map_load alike covers user _

theorem take_delete {documents : Dict String Json} {locator : Locator}
    (works : cluster.Works wiring table documents) :
    (Turn.delete node locator).take cluster =
      (.deleted (deleteEntry wiring.entries locator cluster).1,
        (deleteEntry wiring.entries locator cluster).2) := by
  rw [← works.wired node]
  rfl

/-- Lost grants keep sessions abreast. -/
theorem lose (abreast : Abreast setup bound table one other) (cache : Nat)
    (isLeft : CacheKey → Bool) :
    Abreast setup bound table (loseGrants cache isLeft one).2 (loseGrants cache isLeft other).2 := by
  have loses := losesGrants_loseGrants cache isLeft one
  rcases abreast.coherent with ⟨last, coherent⟩
  exact abreast.of_continues loses.continues
    (abreast.twins.of_loses loses (losesGrants_loseGrants cache isLeft other))
    ⟨last, coherent.of_loses loses⟩

/-- One turn is answered alike by both clusters and keeps them abreast. -/
theorem take (abreast : Abreast setup bound table one other) (alike : setup.Alike) {turn : Turn}
    (covers : ∀ node, turn.node? = some node → setup.Covers node) (spares : turn.SparesUsers)
    (within : (turn.take one).2.drawn ≤ bound) :
    EndAbreast setup bound (turn.take one) (turn.take other) := by
  cases turn with
  | ask node command =>
      obtain ⟨same, kept⟩ := abreast.carryOut alike (covers node rfl) spares within
      exact ⟨congrArg (Reply.answered command) same, kept⟩
  | delete node locator =>
      obtain ⟨documents, works, otherWorks⟩ := abreast.twins.works
      obtain ⟨same, kept⟩ := abreast.delete spares
      rw [take_delete works, take_delete otherWorks]
      exact ⟨congrArg Reply.deleted same, kept⟩
  | lose cache isLeft => exact ⟨rfl, table, abreast.lose cache isLeft⟩

/-- A whole session is answered alike by both clusters. -/
theorem replies (abreast : Abreast setup bound table one other) (alike : setup.Alike)
    (covers : ∀ turn ∈ turns, ∀ node, turn.node? = some node → setup.Covers node)
    (spares : ∀ turn ∈ turns, turn.SparesUsers)
    (within : (closing turns one).drawn ≤ bound) :
    replies turns other = Cluster.replies turns one := by
  induction turns generalizing table one other with
  | nil => rfl
  | cons turn later ih =>
      obtain ⟨covered, coversLater⟩ := List.forall_mem_cons.mp covers
      obtain ⟨spared, sparesLater⟩ := List.forall_mem_cons.mp spares
      obtain ⟨same, changed, kept⟩ :=
        abreast.take alike covered spared (drawn_le_closing.trans within)
      exact congrArg₂ List.cons same (ih kept coversLater sparesLater within)

end Abreast

/-- A session opens with both clusters abreast. -/
theorem Opens.abreast (opens : cluster.Opens wiring table) (turns : List Turn)
    (anew : cluster.DrawsAnew bound) :
    Abreast (cluster.setup wiring table turns) bound table cluster cluster.uncached where
  twins := {
    works := by
      obtain ⟨documents, shelves, -⟩ := opens.fresh.unpublished
      exact ⟨documents, ⟨opens.wired, opens.answers, opens.entries, shelves, _, opens.cache⟩,
        ⟨opens.wired, opens.answers, opens.entries, shelves, _, opens.cache⟩⟩
    settings := fun _ => rfl
    snapshots := rfl
    listings := rfl
    editions := rfl
    drawn := rfl }
  coherent := by
    have empty (used : Snapshot) (isUsed : cluster.Uses none used) : used = .empty := by
      rcases isUsed with isLast | ⟨node, rfl⟩
      · cases isLast
      · exact opens.fresh.empty node
    have genuine : Genuine (cluster.setup wiring table turns) none cluster ∅ := by
      constructor <;> simp [GrantCache.get]
    exact ⟨none, {
      configured := fun _ => rfl
      follows := .of_fresh opens.fresh
      unique := fun first second usesFirst usesSecond _ => by
        rw [empty first usesFirst, empty second usesSecond]
      cached := ⟨_, opens.cache, genuine⟩ }⟩
  finds _ _ := rfl
  normal := opens.normal
  anew := anew

/-- Nodes that share their stores and a cache answer every session of turns as they would without
caching, as long as those of them that cache have one default role and find the same record of a user
whom they know.  Grants are cached under the revision of a snapshot and the name of a user; the default
role and the record are what they are resolved from besides.  Any of them may run out at any time. -/
theorem replies_uncached (opens : cluster.Opens wiring table)
    (alike : (cluster.setup wiring table turns).Alike) (spares : ∀ turn ∈ turns, turn.SparesUsers)
    (anew : cluster.DrawsAnew (closing turns cluster).drawn) :
    replies turns cluster.uncached = replies turns cluster := by
  refine (opens.abreast turns anew).replies alike (fun turn member node isOwn => ?_) spares
    (Nat.le_refl _)
  exact (em _).imp_right fun caches => ⟨caches, turn, member, isOwn⟩

/-! ## Two bureaus -/

namespace Bureaus

/-- A permission to view a subpath of a space, in normal form. -/
def permission (name subpath : String) : Json :=
  .obj [("actions", .arr [.str "view"]), ("is_active", .bool true),
    ("resource_types", .arr [.str "content"]), ("shortname", .str name),
    ("subpaths", .obj [("acme", .arr [.str subpath])])]

/-- A role with one permission. -/
def role (name permission : String) : Json :=
  .obj [("is_active", .bool true), ("permissions", .arr [.str permission]), ("shortname", .str name)]

/-- Alice's record with some roles. -/
def alice (roles : List Json) : Json :=
  .obj [("roles", .arr roles), ("shortname", .str "alice")]

/-- Alice, who is an editor in one space and holds no role in the other, and what she may do. -/
def entries : List (Locator × StoredEntry) :=
  [(⟨"management", "permissions", "read", .permission⟩, ⟨true, permission "read" "posts", []⟩),
    (⟨"management", "permissions", "edit", .permission⟩, ⟨true, permission "edit" "drafts", []⟩),
    (⟨"management", "roles", "logged_in", .role⟩, ⟨true, role "logged_in" "read", []⟩),
    (⟨"management", "roles", "editor", .role⟩, ⟨true, role "editor" "edit", []⟩),
    (⟨"management", "users", "alice", .user⟩, ⟨true, alice [.str "editor"], []⟩),
    (⟨"archive", "users", "alice", .user⟩, ⟨true, alice [], []⟩)]

/-- The second bureau has settings of its own. -/
def pair (settings : Settings) : Cluster where
  nodes := replace (fun _ => {}) 1 { settings := settings }
  entryStores _ := { store := .memory (Std.ExtTreeMap.ofList entries) }
  editions number := ⟨.ofNat (number + 1), .epoch⟩

/-- Both bureaus are asked about Alice, under the same snapshot. -/
def session : List Turn :=
  [.ask 0 .reload, .ask 1 .adopt, .ask 0 (.grants "alice"), .ask 1 (.grants "alice")]

/-- The session goes on after all cached grants have run out. -/
def renewed : List Turn :=
  session ++ [.lose 0 fun _ => false, .ask 1 (.grants "alice"), .ask 0 (.grants "alice")]

/-- How many grants were answered each time. -/
def counts (replies : List Reply) : List Nat :=
  replies.filterMap fun
    | .answered (.grants _) (.ok grants) => some grants.size
    | _ => none

theorem opens (settings : Settings) : (pair settings).Opens {} (Std.ExtTreeMap.ofList entries) where
  wired := forall_replace (fun _ (held : Node) => held.wiring = {}) rfl fun _ _ => rfl
  answers kind := by cases kind <;> rfl
  entries := rfl
  normal := {
    stored := fun locator stored held => by
      have each : ∀ entry ∈ entries, entry.2.document.IsNormal := by
        simp only [entries, List.forall_mem_cons]
        exact ⟨rfl, rfl, rfl, rfl, rfl, rfl, List.forall_mem_nil _⟩
      exact each _ (Dict.mem_of_getElem?_ofList held)
    listed := fun subpath listing held => by simp [pair] at held }
  fresh := {
    empty := forall_replace (fun _ (held : Node) => held.snapshot = .empty) rfl fun _ _ => rfl
    shared := forall_replace (fun _ (held : Node) => held.wiring.snapshots = 0) rfl fun _ _ => rfl
    unpublished := ⟨∅, ⟨false, rfl⟩, Std.ExtTreeMap.getElem?_empty⟩ }
  cache := rfl

theorem spares : ∀ turn ∈ renewed, turn.SparesUsers := by
  simp [renewed, session, Turn.SparesUsers]

theorem drawsAnew {turns : List Turn} {settings : Settings}
    (once : (closing turns (pair settings)).drawn = 1) :
    (pair settings).DrawsAnew (closing turns (pair settings)).drawn := by
  rw [once]
  refine ⟨fun number isFirst => ?_, fun one isFirst other isFirstToo _ => ?_⟩
  · obtain rfl : number = 0 := Nat.lt_one_iff.mp isFirst
    change Uuid.ofNat 1 ≠ .nil
    decide
  · rw [Nat.lt_one_iff.mp isFirst, Nat.lt_one_iff.mp isFirstToo]

/-- Settings that only differ in what does not concern the grants. -/
def brief : Settings := { cacheSeconds := 60, debugDenials := true }

theorem alike : ((pair brief).setup {} (Std.ExtTreeMap.ofList entries) renewed).Alike := by
  have defaultRole : ∀ node, ((pair brief).nodes node).settings.defaultRole = some "logged_in" :=
    forall_replace (fun _ (held : Node) => held.settings.defaultRole = some "logged_in") rfl
      fun _ _ => rfl
  have space : ∀ node, ((pair brief).nodes node).settings.managementSpace = "management" :=
    forall_replace (fun _ (held : Node) => held.settings.managementSpace = "management") rfl
      fun _ _ => rfl
  refine ⟨fun one other _ _ => (defaultRole one).trans (defaultRole other).symm,
    fun one other _ _ name user found known again => ?_⟩
  simp only [setup, Principal.locator, space] at known again
  exact Option.some.inj (Except.ok.inj (known.symm.trans again))

end Bureaus

/-- The second bureau takes Alice's grants from the cache, and so does the first one when they have run
out and the second one has resolved them again. -/
theorem replies_uncached_bureaus :
    Bureaus.counts (replies Bureaus.renewed (Bureaus.pair Bureaus.brief)) = [2, 2, 2, 2] ∧
      replies Bureaus.renewed (Bureaus.pair Bureaus.brief).uncached =
        replies Bureaus.renewed (Bureaus.pair Bureaus.brief) :=
  have evaluated : (closing Bureaus.renewed (Bureaus.pair Bureaus.brief)).drawn = 1 ∧
      Bureaus.counts (replies Bureaus.renewed (Bureaus.pair Bureaus.brief)) = [2, 2, 2, 2] := by
    decide +kernel
  ⟨evaluated.2, replies_uncached (Bureaus.opens _) Bureaus.alike Bureaus.spares
    (Bureaus.drawsAnew evaluated.1)⟩

/-- Whether the bureaus hold a session as any nodes may, and yet tell by their replies that they cache. -/
def Bureaus.TellsCaching (settings : Settings) : Prop :=
  (pair settings).Opens {} (Std.ExtTreeMap.ofList entries) ∧
    (∀ turn ∈ session, turn.SparesUsers) ∧
    (pair settings).DrawsAnew (closing session (pair settings)).drawn ∧
    replies session (pair settings).uncached ≠ replies session (pair settings)

theorem Bureaus.tellsCaching {settings : Settings}
    (once : (closing session (pair settings)).drawn = 1)
    (cached : counts (replies session (pair settings)) = [2, 2])
    (resolved : counts (replies session (pair settings).uncached) = [2, 1]) :
    TellsCaching settings := by
  refine ⟨opens settings, fun turn isTurn => ?_, drawsAnew once, fun same => ?_⟩
  · exact spares turn (List.mem_append_left _ isTurn)
  · rw [same, cached] at resolved
    cases resolved

/-- A bureau that grants no role to everybody, or that keeps the records of users elsewhere, takes grants
from the cache that it would not resolve. -/
theorem replies_ne_uncached :
    Bureaus.TellsCaching { defaultRole := none } ∧
      Bureaus.TellsCaching { managementSpace := "archive" } :=
  ⟨Bureaus.tellsCaching (by decide +kernel) (by decide +kernel) (by decide +kernel),
    Bureaus.tellsCaching (by decide +kernel) (by decide +kernel) (by decide +kernel)⟩

end Cluster

end AccessControl
