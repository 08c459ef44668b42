import AccessControl.Proofs.Cluster.Failure
import AccessControl.Proofs.Reload.Outcome

/-!
# Following the last reload

Nodes that share a store of published snapshots follow the last reload that succeeded on any of them:
none of them is ahead of what is published, and whichever of them manages to adopt what is published
works with the snapshot of that reload, up to what the store gives back of its permissions.  A store that
is kept in memory gives everything back, one in a keyspace what is read from the text of the document.

Calls can be switched off and on at will.  A keyspace server is taken to refuse no command that it is
sent, so that calls fail before they do anything, and caches that are kept by it to have keys of their
own.
-/

namespace AccessControl

namespace Cluster

variable {node number : Nat} {medium : Medium} {before middle after cluster : Cluster}
  {last : Option Snapshot}

/-! ## What reloads publish -/

/-- Nodes without a snapshot that share a store in which nothing is published, and which is kept in the
medium. -/
structure Fresh (cluster : Cluster) (number : Nat) (medium : Medium) : Prop where
  empty : ∀ node, cluster.snapshots node = .empty
  shared : ∀ node, (cluster.nodes node).wiring.snapshots = number
  unpublished : ∃ documents, cluster.Holds number medium documents ∧
    documents[Snapshot.publishedName]? = none

/-- Whether the revision of a snapshot is nil or was drawn. -/
def Drawn (cluster : Cluster) (snapshot : Snapshot) : Prop :=
  snapshot.revision = .nil ∨
    ∃ edition < cluster.drawn, snapshot.revision = (cluster.editions edition).revision

/-- How nodes that share a store of published snapshots come to be in a state: one operation after
another.  The snapshot is the one that the last reload answered that succeeded.  A reload draws a
revision that is not nil and was not drawn before, and is given documents in normal form, as they are
kept. -/
inductive Evolves (number : Nat) (medium : Medium) : Cluster → Option Snapshot → Prop where
  | fresh {cluster : Cluster} (fresh : cluster.Fresh number medium) :
      Evolves number medium cluster none
  | reloaded {before after : Cluster} {last : Option Snapshot} {node : Nat}
      {managementSpace : String} {calls : List Made} {snapshot : Snapshot}
      (evolved : Evolves number medium before last)
      (ran : Ran node (reload managementSpace) before calls (.ok snapshot) after)
      (isNew : ¬ before.Drawn snapshot)
      (normal : ∀ type document, Reload.Lists calls type document → document.IsNormal) :
      Evolves number medium after (some snapshot)
  | notReloaded {before after : Cluster} {last : Option Snapshot} {node : Nat}
      {managementSpace : String} {error : ServiceError} (evolved : Evolves number medium before last)
      (ran : operate node (reload managementSpace) before = (.error error, after)) :
      Evolves number medium after last
  | carriedOut {before : Cluster} {last : Option Snapshot} (evolved : Evolves number medium before last)
      (node : Nat) {command : Command} (other : command ≠ .reload) :
      Evolves number medium (carryOut node command before).2 last
  | deleted {before : Cluster} {last : Option Snapshot} (evolved : Evolves number medium before last)
      (store : Nat) (locator : Locator) : Evolves number medium (deleteEntry store locator before).2 last
  | switched {before : Cluster} {last : Option Snapshot} (evolved : Evolves number medium before last)
      (wiring : Wiring) (kind : CallKind) (reason : Option String) :
      Evolves number medium (setFault wiring kind reason before).2 last

/-- What relates nodes that share a store to the last snapshot that was published in it. -/
structure Follows (cluster : Cluster) (number : Nat) (medium : Medium) (last : Option Snapshot) :
    Prop where
  shared : ∀ node, (cluster.nodes node).wiring.snapshots = number
  published : ∃ documents, cluster.Holds number medium documents ∧
    documents[Snapshot.publishedName]? = last.map Snapshot.document
  readable : ∀ snapshot, last = some snapshot → snapshot.IsReadable
  behind : ∀ node, (cluster.snapshots node).generation ≤ last.elim 0 Snapshot.generation
  known : ∀ node snapshot, last = some snapshot →
    (cluster.snapshots node).revision = snapshot.revision →
      cluster.snapshots node = snapshot ∨ medium.Retells snapshot (cluster.snapshots node)
  drawn : ∀ node, cluster.Drawn (cluster.snapshots node)
  drawnLast : ∀ snapshot, last = some snapshot → cluster.Drawn snapshot

/-- What leaves published documents and current snapshots alone. -/
structure SamePublication (before after : Cluster) : Prop where
  wiring : ∀ node, (after.nodes node).wiring = (before.nodes node).wiring
  documents : ∀ number medium documents, before.Holds number medium documents →
    after.Holds number medium documents
  snapshots : after.snapshots = before.snapshots
  editions : after.editions = before.editions
  drawn : before.drawn ≤ after.drawn

/-- What changes neither the stores nor the nodes leaves published documents alone. -/
theorem SamePublication.of_stores
    (wiring : ∀ node, (after.nodes node).wiring = (before.nodes node).wiring)
    (stores : ∀ number, (after.snapshotStores number).store = (before.snapshotStores number).store)
    (caches : ∀ number, (after.cacheStores number).store = (before.cacheStores number).store)
    (keyspace : after.keyspace = before.keyspace) (snapshots : after.snapshots = before.snapshots)
    (editions : after.editions = before.editions) (drawn : after.drawn = before.drawn) :
    SamePublication before after :=
  ⟨wiring, fun _ _ _ held => held.congr wiring (stores _) caches keyspace, snapshots, editions,
    Nat.le_of_eq drawn.symm⟩

theorem SameButCaches.samePublication (same : SameButCaches before after)
    (continues : Continues before after) : SamePublication before after :=
  ⟨same.wiring, same.documents, same.snapshots, continues.editions, continues.drawn⟩

theorem Drawn.mono {snapshot : Snapshot} (isDrawn : before.Drawn snapshot)
    (editions : after.editions = before.editions) (drawn : before.drawn ≤ after.drawn) :
    after.Drawn snapshot := by
  refine isDrawn.imp_right ?_
  rintro ⟨edition, earlier, same⟩
  exact ⟨edition, earlier.trans_le drawn, by rw [editions, same]⟩

theorem Drawn.of_revision_eq {one other : Snapshot} (isDrawn : cluster.Drawn one)
    (same : other.revision = one.revision) : cluster.Drawn other := by
  rwa [Drawn, same]

namespace Follows

theorem of_fresh (fresh : cluster.Fresh number medium) : cluster.Follows number medium none where
  shared := fresh.shared
  published := fresh.unpublished
  readable _ := nofun
  behind node := by rw [fresh.empty node]; exact Nat.le_refl 0
  known _ _ := nofun
  drawn node := by rw [fresh.empty node]; exact .inl rfl
  drawnLast _ := nofun

theorem of_same (follows : before.Follows number medium last) (same : SamePublication before after) :
    after.Follows number medium last where
  shared node := by rw [same.wiring, follows.shared]
  published := follows.published.imp fun _ held => ⟨same.documents _ _ _ held.1, held.2⟩
  readable := follows.readable
  behind node := by rw [same.snapshots]; exact follows.behind node
  known node := by rw [same.snapshots]; exact follows.known node
  drawn node := by rw [same.snapshots]; exact (follows.drawn node).mono same.editions same.drawn
  drawnLast snapshot isLast := (follows.drawnLast snapshot isLast).mono same.editions same.drawn

/-- What a node fetches is what the store gives of the document of the last reload. -/
theorem of_fetch (follows : cluster.Follows number medium last) {published : Option Json}
    (fetched : (call node (.fetchSnapshot Snapshot.publishedName) cluster).1 = .ok published) :
    Option.Rel medium.Gives (last.map Snapshot.document) published := by
  rcases follows.published with ⟨documents, holds, isPublished⟩
  rw [← follows.shared node] at holds
  rw [← isPublished]
  exact holds.of_fetch fetched

/-- Whatever document is fetched claims the generation of the last reload. -/
theorem publishedGeneration_of_fetch (follows : cluster.Follows number medium last)
    {published : Option Json}
    (fetched : (call node (.fetchSnapshot Snapshot.publishedName) cluster).1 = .ok published) :
    Snapshot.publishedGeneration published = last.elim 0 Snapshot.generation := by
  have rel := follows.of_fetch fetched
  cases last with
  | none =>
      cases rel
      rfl
  | some snapshot =>
      cases rel with
      | some gives => exact gives.publishedGeneration (follows.readable snapshot rfl)

/-- Whatever document is fetched is read as the store retells the snapshot of the last reload. -/
theorem exists_last_of_fetch (follows : cluster.Follows number medium last) {document : Json}
    {given : Snapshot}
    (fetched : (call node (.fetchSnapshot Snapshot.publishedName) cluster).1 = .ok (some document))
    (decoded : Snapshot.decoder document = .ok given) :
    ∃ snapshot, last = some snapshot ∧ medium.Retells snapshot given := by
  have rel := follows.of_fetch fetched
  cases last with
  | none => cases rel
  | some snapshot =>
      cases rel with
      | some gives => exact ⟨snapshot, rfl, document, gives, decoded⟩

/-- A node may take over what the store retells of the last reload. -/
theorem installed {snapshot given : Snapshot} (follows : before.Follows number medium (some snapshot))
    (retells : medium.Retells snapshot given) (continues : Continues before after)
    (documents : ∀ number medium documents, before.Holds number medium documents →
      after.Holds number medium documents)
    (snapshots : after.snapshots = replace before.snapshots node given) :
    after.Follows number medium (some snapshot) := by
  have readable := follows.readable snapshot rfl
  have drawnLast : after.Drawn snapshot :=
    (follows.drawnLast snapshot rfl).mono continues.editions continues.drawn
  refine {
    shared := fun node => by rw [continues.wiring, follows.shared]
    published := follows.published.imp fun _ held => ⟨documents _ _ _ held.1, held.2⟩
    readable := follows.readable
    behind := ?_
    known := ?_
    drawn := ?_
    drawnLast := fun _ isLast => Option.some.inj isLast ▸ drawnLast }
  · rw [snapshots]
    exact forall_replace (fun _ (held : Snapshot) => held.generation ≤ snapshot.generation)
      (Nat.le_of_eq (retells.generation readable)) fun node _ => follows.behind node
  · intro node _ isLast
    cases isLast
    rw [snapshots]
    exact forall_replace (fun _ held => held.revision = snapshot.revision →
        held = snapshot ∨ medium.Retells snapshot held)
      (fun _ => .inr retells) (fun node _ => follows.known node snapshot rfl) node
  · rw [snapshots]
    exact forall_replace (fun _ => after.Drawn) (drawnLast.of_revision_eq (retells.revision readable))
      fun node _ => (follows.drawn node).mono continues.editions continues.drawn

theorem of_adopt (follows : before.Follows number medium last) (node : Nat) :
    (operate node adopt before).2.Follows number medium last := by
  have continues := continues_operate node adopt before
  have adopts := adopts_adopt node before
  cases ran : operate node adopt before with
  | mk answer after =>
      rw [ran] at continues adopts
      cases adopts with
      | failed same | unpublished _ same | declined _ _ _ same =>
          exact follows.of_same (same.toSameButCaches.samePublication continues)
      | installed fetched decoded documents snapshots =>
          rcases follows.exists_last_of_fetch fetched decoded with ⟨snapshot, rfl, retells⟩
          exact follows.installed retells continues documents snapshots

/-- A reload comes after everything that nodes work with. -/
theorem of_reload (follows : before.Follows number medium last) {managementSpace : String}
    {calls : List Made} {snapshot : Snapshot}
    (ran : Ran node (reload managementSpace) before calls (.ok snapshot) after)
    (isNew : ¬ before.Drawn snapshot)
    (normal : ∀ type document, Reload.Lists calls type document → document.IsNormal) :
    after.Follows number medium (some snapshot) := by
  obtain ⟨sources, cleared, reloads⟩ := Reload.exists_reloads ran
  have continues := continues_operate node (reload managementSpace) before
  rw [ran.operated] at continues
  have readable := reloads.isReadable normal
  rcases follows.published with ⟨documents, holds, -⟩
  have ahead : last.elim 0 Snapshot.generation ≤ snapshot.generation := by
    have locked : (step node .lock before).2.Follows number medium last :=
      follows.of_same (sameContents_lock.toSameButCaches.samePublication (continues_step ..))
    rw [← locked.publishedGeneration_of_fetch reloads.fetched, reloads.make.generation]
    exact Snapshot.le_generationAfter (Snapshot.publishedGeneration_lt _)
  have isDrawn : after.Drawn snapshot := by
    refine .inr ⟨before.drawn, ?_, ?_⟩
    · rw [reloads.drawn]; exact Nat.lt_succ_self _
    · rw [continues.editions]; exact reloads.make.revision
  have differs (held : Snapshot) (isOld : before.Drawn held) (same : held.revision = snapshot.revision) :
      held = snapshot := by
    rw [Drawn, same] at isOld
    exact absurd isOld isNew
  refine {
    shared := fun node => by rw [continues.wiring, follows.shared]
    published := ⟨documents.insert Snapshot.publishedName snapshot.document, ?_, by simp⟩
    readable := fun _ isLast => Option.some.inj isLast ▸ readable
    behind := ?_
    known := ?_
    drawn := ?_
    drawnLast := fun _ isLast => Option.some.inj isLast ▸ isDrawn }
  · rw [← follows.shared node] at holds ⊢
    exact reloads.holds ran holds
  · rw [reloads.snapshots]
    exact forall_replace (fun _ (held : Snapshot) => held.generation ≤ snapshot.generation)
      (Nat.le_refl _) fun node _ => (follows.behind node).trans ahead
  · intro node _ isLast
    cases isLast
    rw [reloads.snapshots]
    exact forall_replace (fun _ held => held.revision = snapshot.revision →
        held = snapshot ∨ medium.Retells snapshot held)
      (fun _ => .inl rfl) (fun node _ same => .inl (differs _ (follows.drawn node) same)) node
  · rw [reloads.snapshots]
    exact forall_replace (fun _ => after.Drawn) isDrawn
      fun node _ => (follows.drawn node).mono continues.editions continues.drawn

theorem of_failed_reload (follows : before.Follows number medium last) {managementSpace : String}
    {error : ServiceError}
    (ran : operate node (reload managementSpace) before = (.error error, after)) :
    after.Follows number medium last := by
  have continues := continues_operate node (reload managementSpace) before
  rw [ran] at continues
  have same := failsSafely_reload managementSpace node before error after ran
  exact follows.of_same (same.toSameButCaches.samePublication continues)

/-- A question about a user only concerns caches. -/
theorem of_question {α : Type} {operation : Operation α} {settings : Settings} {user : String}
    (follows : before.Follows number medium last)
    (gains : GainsGrants settings node user before (operate node operation before).2) :
    (operate node operation before).2.Follows number medium last :=
  follows.of_same (gains.toSameButCaches.samePublication (continues_operate node operation before))

theorem of_saveEntry (follows : before.Follows number medium last) (store : Nat)
    (space subpath : String) (document : Json) :
    (saveEntry store space subpath document before).2.Follows number medium last := by
  refine follows.of_same ?_
  cases kept : (before.entryStores store).store with
  | memory table =>
      rw [saveEntry_of_memory kept]
      cases table.save space subpath document <;>
        exact .of_stores (fun _ => rfl) (fun _ => rfl) (fun _ => rfl) rfl rfl rfl rfl
  | database isOpen =>
      simp only [saveEntry, bind, StateT.bind, get, getThe, MonadStateOf.get, StateT.get, pure, kept]
      exact .of_stores (fun _ => rfl) (fun _ => rfl) (fun _ => rfl) rfl rfl rfl rfl

theorem of_deleteEntry (follows : before.Follows number medium last) (store : Nat) (locator : Locator) :
    (deleteEntry store locator before).2.Follows number medium last := by
  refine follows.of_same ?_
  cases kept : (before.entryStores store).store with
  | memory table | database isOpen =>
      simp only [deleteEntry, bind, StateT.bind, get, getThe, MonadStateOf.get, StateT.get, pure, kept]
      exact .of_stores (fun _ => rfl) (fun _ => rfl) (fun _ => rfl) rfl rfl rfl rfl

/-- Switching calls off or on leaves the contents of stores alone. -/
theorem of_setFault (follows : before.Follows number medium last) (wiring : Wiring) (kind : CallKind)
    (reason : Option String) : (setFault wiring kind reason before).2.Follows number medium last := by
  refine follows.of_same ?_
  cases kind with
  | loadActiveEntries | findUser | findEntry =>
      exact .of_stores (fun _ => rfl) (fun _ => rfl) (fun _ => rfl) rfl rfl rfl rfl
  | prepareIndex | persistSnapshot | fetchSnapshot =>
      refine .of_stores (fun _ => rfl) (fun number => ?_) (fun _ => rfl) rfl rfl rfl rfl
      change (replace before.snapshotStores wiring.snapshots _ number).store = _
      refine apply_replace_of_eq Switched.store ?_ number
      rfl
  | cacheGet | cachePut | cacheClear =>
      refine .of_stores (fun _ => rfl) (fun _ => rfl) (fun number => ?_) rfl rfl rfl rfl
      change (replace before.cacheStores wiring.cache _ number).store = _
      refine apply_replace_of_eq Switched.store ?_ number
      rfl

/-- Whatever a node is asked other than to reload, it goes on following the last reload. -/
theorem of_carryOut (follows : before.Follows number medium last) (node : Nat) {command : Command}
    (other : command ≠ .reload) : (carryOut node command before).2.Follows number medium last := by
  change (carryOutAs node (before.nodes node).settings (before.nodes node).wiring command
    before).2.Follows number medium last
  cases command with
  | save space subpath document => exact follows.of_saveEntry _ space subpath document
  | reload => exact absurd rfl other
  | adopt => exact follows.of_adopt node
  | check request => exact follows.of_question gainsGrants_checkAccess
  | require request => exact follows.of_question gainsGrants_requireAccess
  | checkSpace user space => exact follows.of_question (gainsGrants_load.bind fun _ => .pure _)
  | grants user => exact follows.of_question (gainsGrants_load.bind fun _ => .pure _)
  | policies user space subpath =>
      exact follows.of_question (gainsGrants_load.bind fun _ => .pure _)

end Follows

/-- Adopting brings a node to the last reload, or to what the store retells of it. -/
theorem Follows.retells_of_adopt (follows : before.Follows number medium last) {snapshot : Snapshot}
    {answer : Bool} (isLast : last = some snapshot)
    (ran : operate node adopt before = (.ok answer, after)) :
    (after.snapshots node = snapshot ∨ medium.Retells snapshot (after.snapshots node)) ∧
      (answer = true → medium.Retells snapshot (after.snapshots node)) := by
  cases isLast
  have adopts := adopts_adopt node before
  rw [ran] at adopts
  cases adopts with
  | unpublished fetched same => cases follows.of_fetch fetched
  | declined fetched decoded notNewer same =>
      rcases follows.exists_last_of_fetch fetched decoded with ⟨_, isSame, retells⟩
      cases isSame
      have readable := follows.readable snapshot rfl
      refine ⟨?_, nofun⟩
      rw [same.snapshots]
      rcases notNewer with isCurrent | older
      · exact follows.known node snapshot rfl
          (isCurrent.symm.trans (retells.revision readable))
      · rw [retells.generation readable] at older
        exact absurd (follows.behind node) (Nat.not_le.mpr older)
  | installed fetched decoded documents snapshots =>
      rcases follows.exists_last_of_fetch fetched decoded with ⟨_, isSame, retells⟩
      cases isSame
      rw [snapshots, replace_same]
      exact ⟨.inr retells, fun _ => retells⟩

theorem Evolves.follows (evolves : Evolves number medium cluster last) :
    cluster.Follows number medium last := by
  induction evolves with
  | fresh fresh => exact .of_fresh fresh
  | reloaded _ ran isNew normal follows => exact follows.of_reload ran isNew normal
  | notReloaded _ ran follows => exact follows.of_failed_reload ran
  | carriedOut _ node other follows => exact follows.of_carryOut node other
  | deleted _ store locator follows => exact follows.of_deleteEntry store locator
  | switched _ wiring kind reason follows => exact follows.of_setFault wiring kind reason

/-- A node that reaches the store manages to adopt what is published, if the store keeps it. -/
theorem Follows.exists_adopt (follows : cluster.Follows number medium last)
    (reaches : cluster.Reaches node)
    (keeps : ∀ snapshot, last = some snapshot → medium.Keeps snapshot.document) :
    ∃ answer after, operate node adopt cluster = (.ok answer, after) := by
  rcases follows.published with ⟨documents, holds, published⟩
  rw [← follows.shared node] at holds
  have fetched := holds.fetch_of_keeps reaches fun document isPublished => by
    rw [published] at isPublished
    rcases Option.map_eq_some_iff.mp isPublished with ⟨snapshot, isLast, rfl⟩
    exact keeps snapshot isLast
  refine exists_adopt_of_fetch fetched fun document isPublished => ?_
  rw [published] at isPublished
  rcases Option.map_eq_some_iff.mp isPublished with ⟨snapshot, isLast, rfl⟩
  exact ⟨snapshot, (follows.readable snapshot isLast).decoder_document⟩

/-- No node is ahead of what is published, and a node that manages to adopt what is published, after
some reload has succeeded, works with the snapshot of the last one that did, save that permissions may
differ where the store does not give the document back.  It is that very snapshot if the store keeps the
document, and, for a node that has just taken it over, only then. -/
theorem followers_converge (evolves : Evolves number medium cluster last) :
    (∃ documents, cluster.Holds number medium documents ∧
        ∀ node, (cluster.snapshots node).generation ≤
          Snapshot.publishedGeneration documents[Snapshot.publishedName]?) ∧
      ∀ node answer after snapshot, last = some snapshot →
        operate node adopt cluster = (.ok answer, after) →
          after.snapshots node =
              { snapshot with permissions := (after.snapshots node).permissions } ∧
            (medium.Keeps snapshot.document → after.snapshots node = snapshot) ∧
            (answer = true → after.snapshots node = snapshot → medium.Keeps snapshot.document) := by
  have follows := evolves.follows
  constructor
  · rcases follows.published with ⟨documents, holds, published⟩
    refine ⟨documents, holds, fun node => ?_⟩
    rw [published]
    cases last with
    | none => exact follows.behind node
    | some snapshot =>
        rw [Option.map_some,
          Snapshot.publishedGeneration_document (follows.readable snapshot rfl).generation]
        exact follows.behind node
  · intro node answer after snapshot isLast ran
    have readable := follows.readable snapshot isLast
    rcases follows.retells_of_adopt isLast ran with ⟨current, taken⟩
    refine ⟨?_, fun keeps => ?_, fun isTrue same => ((taken isTrue).eq_iff readable).mp same⟩
    · rcases current with same | retells
      · rw [same]
      · exact retells.eq readable
    · rcases current with same | retells
      · exact same
      · exact (retells.eq_iff readable).mpr keeps

/-! ### A newsroom -/

section Newsroom

open Reload.Newsroom

/-- The newsroom with its published snapshots in a keyspace, where the cache is kept too. -/
def filing : Cluster :=
  { management with
    snapshotStores := fun _ => { store := .keyspace "dmart" true }
    cacheStores := fun number =>
      { management.cacheStores number with store := .keyspace "dmart" true } }

/-- The cluster with the keyspace after a node reloaded. -/
def filed : Except ServiceError Snapshot × Cluster :=
  operate 0 (reload "management") filing

theorem isNew_built : ¬ management.Drawn built := by
  intro isDrawn
  rcases isDrawn with isNil | ⟨_, impossible, -⟩
  · exact absurd isNil (by decide)
  · exact absurd impossible (Nat.not_lt_zero _)

theorem evolves_reloaded : Evolves 0 .memory reloaded.2 (some built) := by
  have fresh : management.Fresh 0 .memory :=
    ⟨fun _ => rfl, fun _ => rfl, ∅, ⟨false, rfl⟩, Std.ExtTreeMap.getElem?_empty⟩
  exact .reloaded (.fresh fresh) ran_reload isNew_built isNormal_of_lists

theorem evolves_filed : Evolves 0 (.keyspace "dmart") filed.2 (some built) := by
  have files : filing.Files 0 "dmart" ∅ := {
    isKept := ⟨true, rfl⟩
    shared := fun _ => rfl
    apart := fun cache cachePrefix isUp isKept => by
      cases isKept
      exact Keyspace.apart_self
    publishes := Keyspace.Publishes.empty }
  have fresh : filing.Fresh 0 (.keyspace "dmart") :=
    ⟨fun _ => rfl, fun _ => rfl, ∅, files, Std.ExtTreeMap.getElem?_empty⟩
  have ran : Ran 0 (reload "management") filing made (.ok built) filed.2 :=
    ⟨rfl, filed.2.journal, rfl, rfl⟩
  exact .reloaded (.fresh fresh) ran isNew_built isNormal_of_lists

theorem isKeptByText_built : built.document.IsKeptByText := by
  have numbers : built.document.numbers = [.int 1] := rfl
  constructor
  · exact Json.normal_normal _
  · decide +kernel
  · intro n isNumber
    rw [numbers] at isNumber
    cases List.mem_singleton.mp isNumber
    decide
  · intro bits isNumber
    rw [numbers] at isNumber
    cases List.mem_singleton.mp isNumber

/-- After the first node has reloaded, the second one adopts what it published, be it from memory or
from a text. -/
theorem followers_converge_newsroom :
    (∃ after, operate 1 adopt reloaded.2 = (.ok true, after) ∧ after.snapshots 1 = built) ∧
      ∃ answer after, operate 1 adopt filed.2 = (.ok answer, after) ∧ after.snapshots 1 = built := by
  constructor
  · have adopted : operate 1 adopt reloaded.2 = (.ok true, (operate 1 adopt reloaded.2).2) := rfl
    have converges := (followers_converge evolves_reloaded).2 1 true _ built rfl adopted
    exact ⟨_, adopted, converges.2.1 trivial⟩
  · have reaches : filed.2.Reaches 1 := ⟨rfl, fun _ _ isKept => by cases isKept; rfl⟩
    have keeps (snapshot : Snapshot) (isLast : some built = some snapshot) :
        (Medium.keyspace "dmart").Keeps snapshot.document := by
      cases isLast
      exact isKeptByText_built
    rcases evolves_filed.follows.exists_adopt reaches keeps with ⟨answer, after, adopted⟩
    have converges := (followers_converge evolves_filed).2 1 answer after built rfl adopted
    exact ⟨answer, after, adopted, converges.2.1 isKeptByText_built⟩

end Newsroom

end Cluster

end AccessControl
