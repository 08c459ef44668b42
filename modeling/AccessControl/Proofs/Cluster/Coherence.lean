import AccessControl.Proofs.Cluster.Attendance
import AccessControl.Proofs.Cluster.Convergence
import AccessControl.Proofs.Cluster.Twins

/-!
# Coherent caches

Nodes that share a cache may take their grants from it as long as it holds, under the revision of each
snapshot that is still in use, what any of the nodes that cache would resolve from that snapshot.  For
this the nodes have to agree on the default role and on the records of users: neither is part of what
grants are cached under.
-/

namespace AccessControl

namespace Cluster

/-- What stays the same about nodes that share a cache: their wiring and settings, which of them cache,
and what records of users they find. -/
structure Setup where
  wiring : Wiring
  settings : Nat → Settings
  caches : Nat → Prop
  records : Nat → String → Except ServiceError (Option User)

namespace Setup

/-- Whether the nodes that cache have one default role and find the same record of a user whom they
know. -/
structure Alike (setup : Setup) : Prop where
  defaultRole : ∀ one other, setup.caches one → setup.caches other →
    (setup.settings one).defaultRole = (setup.settings other).defaultRole
  record : ∀ one other, setup.caches one → setup.caches other → ∀ name user found,
    setup.records one name = .ok (some user) → setup.records other name = .ok (some found) →
      user = found

/-- Whether a node is one of those that cache, unless its settings keep it from caching. -/
def Covers (setup : Setup) (node : Nat) : Prop :=
  (setup.settings node).cacheSeconds = 0 ∨ setup.caches node

/-- Whether the nodes find their records in a table. -/
def Finds (setup : Setup) (table : EntryTable) : Prop :=
  ∀ node name, table.find User.decoder (Principal.locator (setup.settings node) name) =
    setup.records node name

end Setup

variable {node bound : Nat} {before after cluster : Cluster} {wiring : Wiring} {setup : Setup}
  {table : EntryTable} {documents : Dict String Json} {last next : Option Snapshot}
  {snapshot : Snapshot} {held kept : GrantCache} {user : String} {calls : List Made}
  {managementSpace : String}

/-- Whether a snapshot is in use: a node works with it, or it was the last one to be published. -/
def Uses (cluster : Cluster) (last : Option Snapshot) (snapshot : Snapshot) : Prop :=
  last = some snapshot ∨ ∃ node, cluster.snapshots node = snapshot

/-- Whether the revisions below a bound are distinct, and none is nil. -/
structure DrawsAnew (cluster : Cluster) (bound : Nat) : Prop where
  notNil : ∀ number < bound, (cluster.editions number).revision ≠ .nil
  distinct : ∀ one < bound, ∀ other < bound,
    (cluster.editions one).revision = (cluster.editions other).revision → one = other

/-- Whether grants are held under drawn revisions only, and are those that any node that caches would
resolve, as long as the snapshot is in use. -/
structure Genuine (setup : Setup) (last : Option Snapshot) (cluster : Cluster) (held : GrantCache) :
    Prop where
  drawn : ∀ revision name grants, held.get revision name = some grants →
    ∃ snapshot, snapshot.revision = revision ∧ cluster.Drawn snapshot
  resolved : ∀ snapshot, cluster.Uses last snapshot → ∀ name grants,
    held.get snapshot.revision name = some grants → ∀ node user, setup.caches node →
      setup.records node name = .ok (some user) →
        grants = Resolution.grants snapshot user (setup.settings node).defaultRole

/-- Whether nodes follow the last snapshot and hold none but genuine grants in their cache. -/
structure Coherent (setup : Setup) (last : Option Snapshot) (cluster : Cluster) : Prop where
  configured : ∀ node, (cluster.nodes node).settings = setup.settings node
  follows : cluster.Follows setup.wiring.snapshots .memory last
  unique : ∀ one other, cluster.Uses last one → cluster.Uses last other →
    one.revision = other.revision → one = other
  cached : ∃ held, cluster.Caches setup.wiring.cache held ∧ Genuine setup last cluster held

/-- A snapshot that is under the next revision was not drawn before. -/
theorem DrawsAnew.not_drawn (anew : cluster.DrawsAnew bound) (within : cluster.drawn < bound)
    (isNext : snapshot.revision = (cluster.editions cluster.drawn).revision) :
    ¬ cluster.Drawn snapshot := by
  rintro (isNil | ⟨edition, earlier, same⟩)
  · exact anew.notNil cluster.drawn within (isNext.symm.trans isNil)
  · have isSame := anew.distinct edition (earlier.trans within) _ within (same.symm.trans isNext)
    exact absurd isSame (Nat.ne_of_lt earlier)

/-- Whether all documents that a node can be given are in normal form, as they are kept. -/
structure KeepsNormal (cluster : Cluster) (number : Nat) (table : EntryTable) : Prop where
  stored : ∀ (locator : Locator) (stored : StoredEntry), table[locator]? = some stored →
    stored.document.IsNormal
  listed : ∀ (subpath : String) (listing : List ListedEntry),
    (cluster.listings number)[subpath]? = some listing → ∀ entry ∈ listing, entry.document.IsNormal

/-- What is answered to a listing is in normal form. -/
theorem KeepsNormal.of_call (normal : cluster.KeepsNormal wiring.entries table)
    (works : cluster.Works wiring table documents) {space subpath : String} {type : ResourceType}
    {entries : List ListedEntry}
    (answered : (call node (.loadActiveEntries space subpath type) cluster).1 = .ok entries) :
    ∀ entry ∈ entries, entry.document.IsNormal := by
  have answers := works.answers .loadActiveEntries
  rw [← works.wired node] at answers
  rw [call_of_no_fault _ answers, works.wired, callStore_loadActiveEntries works.entries] at answered
  obtain rfl := Except.ok.inj answered
  intro entry member
  cases isSet : (cluster.listings wiring.entries)[subpath]? with
  | some listing =>
      rw [isSet] at member
      exact normal.listed subpath listing isSet entry member
  | none =>
      rw [isSet] at member
      obtain ⟨locator, stored, found, same⟩ := EntryTable.exists_of_mem_activeEntries member
      exact same ▸ normal.stored locator stored found

/-- Whatever an operation lists is in normal form. -/
theorem KeepsNormal.of_lists {α : Type} {operation : Operation α} {answer : Except ServiceError α}
    (normal : before.KeepsNormal wiring.entries table)
    (works : before.Works wiring table documents)
    (ran : Ran node operation before calls answer after) {type : ResourceType} {document : Json}
    (lists : Reload.Lists calls type document) : document.IsNormal := by
  let Holds (cluster : Cluster) : Prop :=
    cluster.KeepsNormal wiring.entries table ∧ ∃ documents, cluster.Works wiring table documents
  have stepped (request : Request) (cluster : Cluster) (holds : Holds cluster) :
      Holds (step node request cluster).2 := by
    obtain ⟨normal, documents, works⟩ := holds
    refine ⟨⟨normal.stored, ?_⟩, _, works.step node request⟩
    rw [(continues_step node request cluster).listings]
    exact normal.listed
  have accounts : Accounts node fun before calls after => Holds before →
      Holds after ∧ ∀ type document, Reload.Lists calls type document → document.IsNormal := {
    refl := fun cluster holds => ⟨holds, fun _ _ lists => absurd lists Reload.not_lists_nil⟩
    append := fun earlier later holds => by
      obtain ⟨between, firstNormal⟩ := earlier holds
      obtain ⟨ends, secondNormal⟩ := later between
      exact ⟨ends, fun type document lists =>
        lists.of_append.elim (firstNormal type document) (secondNormal type document)⟩
    called := fun storeCall cluster holds => by
      refine ⟨stepped (.call storeCall) cluster holds, ?_⟩
      rintro type document ⟨space, subpath, entries, member, entry, listed, rfl⟩
      obtain ⟨normal, documents, works⟩ := holds
      obtain ⟨rfl, answered⟩ := Made.mk.inj (List.mem_singleton.mp member)
      exact normal.of_call works (eq_of_heq answered).symm entry listed
    silent := fun request cluster _ holds =>
      ⟨stepped request cluster holds, fun _ _ lists => absurd lists Reload.not_lists_nil⟩ }
  exact (ran.accounted accounts ⟨normal, documents, works⟩).2 type document lists

/-- After a node has taken over the last snapshot, that one is in use, and those that were before. -/
theorem Uses.of_replace {used : Snapshot} (isUsed : after.Uses (some snapshot) used)
    (snapshots : after.snapshots = replace before.snapshots node snapshot) :
    used = snapshot ∨ before.Uses last used := by
  rcases isUsed with isLast | ⟨place, rfl⟩
  · exact .inl (Option.some.inj isLast).symm
  · rw [snapshots]
    exact forall_replace (fun _ held => held = snapshot ∨ before.Uses last held) (.inl rfl)
      (fun place _ => .inr (.inr ⟨place, rfl⟩)) place

namespace Follows

theorem drawn_of_uses {number : Nat} {medium : Medium} (follows : cluster.Follows number medium last)
    (uses : cluster.Uses last snapshot) : cluster.Drawn snapshot := by
  rcases uses with isLast | ⟨node, rfl⟩
  · exact follows.drawnLast snapshot isLast
  · exact follows.drawn node

end Follows

/-! ## Genuine grants -/

/-- Grants stay genuine where none are added, and where the snapshots that come into use are new. -/
theorem Genuine.mono (genuine : Genuine setup last before held) (continues : Continues before after)
    (earlier : ∀ revision name grants, kept.get revision name = some grants →
      held.get revision name = some grants)
    (uses : ∀ snapshot, after.Uses next snapshot →
      before.Uses last snapshot ∨ ¬ before.Drawn snapshot) :
    Genuine setup next after kept where
  drawn revision name grants isKept := by
    obtain ⟨snapshot, same, isDrawn⟩ := genuine.drawn revision name grants (earlier _ _ _ isKept)
    exact ⟨snapshot, same, isDrawn.mono continues.editions continues.drawn⟩
  resolved snapshot isUsed name grants isKept := by
    rcases uses snapshot isUsed with isOld | isNew
    · exact genuine.resolved snapshot isOld name grants (earlier _ _ _ isKept)
    · obtain ⟨old, same, isDrawn⟩ := genuine.drawn _ name grants (earlier _ _ _ isKept)
      rw [Drawn, same] at isDrawn
      exact absurd isDrawn isNew

/-- What a node that caches resolves may be cached, if the others would resolve the same. -/
theorem Genuine.put {record : User} {seconds : Nat} (genuine : Genuine setup last cluster held)
    (alike : setup.Alike) (caches : setup.caches node) (isDrawn : cluster.Drawn snapshot)
    (unique : ∀ other, cluster.Uses last other → snapshot.revision = other.revision →
      snapshot = other)
    (known : setup.records node user = .ok (some record)) :
    Genuine setup last cluster (held.put snapshot.revision user
      (Resolution.grants snapshot record (setup.settings node).defaultRole) seconds) where
  drawn revision name grants isHeld := by
    rcases GrantCache.of_get_put isHeld with earlier | ⟨rfl, -, -⟩
    · exact genuine.drawn revision name grants earlier
    · exact ⟨snapshot, rfl, isDrawn⟩
  resolved used isUsed name grants isHeld other person isCacher isKnown := by
    rcases GrantCache.of_get_put isHeld with earlier | ⟨same, rfl, rfl⟩
    · exact genuine.resolved used isUsed name grants earlier other person isCacher isKnown
    · rw [unique used isUsed same, alike.defaultRole node other caches isCacher,
        alike.record node other caches isCacher user record person known isKnown]

namespace Coherent

/-- A node attends to all users, whether it caches or not. -/
theorem attends (coherent : Coherent setup last cluster)
    (works : cluster.Works setup.wiring table documents) (finds : setup.Finds table)
    (covers : setup.Covers node) (name : String) :
    cluster.Attends node (setup.settings node) table (cluster.snapshots node) name where
  current := rfl
  answers kind := by rw [works.wired, works.answers]
  entries := by rw [works.wired, works.entries]
  coherent user known := by
    obtain ⟨held, isHeld, genuine⟩ := coherent.cached
    rw [finds] at known
    refine covers.imp_right fun caches => ⟨held, by rw [works.wired]; exact isHeld, ?_⟩
    intro grants isCached
    exact genuine.resolved _ (.inr ⟨node, rfl⟩) name grants isCached node user caches known

/-- What leaves the cache alone and takes no other snapshots into use keeps it coherent. -/
theorem of_uses (coherent : Coherent setup last before)
    (follows : after.Follows setup.wiring.snapshots .memory last) (continues : Continues before after)
    (uses : ∀ snapshot, after.Uses last snapshot → before.Uses last snapshot)
    (caches : ∀ held, before.Caches setup.wiring.cache held →
      after.Caches setup.wiring.cache held) : Coherent setup last after where
  configured node := by rw [continues.settings, coherent.configured]
  follows := follows
  unique one other usesOne usesOther :=
    coherent.unique one other (uses one usesOne) (uses other usesOther)
  cached := by
    obtain ⟨held, isHeld, genuine⟩ := coherent.cached
    exact ⟨held, caches held isHeld,
      genuine.mono continues (fun _ _ _ => id) fun used isUsed => .inl (uses used isUsed)⟩

theorem of_same (coherent : Coherent setup last before) (same : SameContents before after)
    (continues : Continues before after) : Coherent setup last after := by
  refine coherent.of_uses ?_ continues (fun snapshot uses => ?_) (same.caches setup.wiring.cache)
  · exact coherent.follows.of_same (same.toSameButCaches.samePublication continues)
  · rwa [Uses, same.snapshots] at uses

theorem of_adopt (coherent : Coherent setup last before) (node : Nat) :
    Coherent setup last (operate node adopt before).2 := by
  have continues := continues_operate node adopt before
  have follows := coherent.follows.of_adopt node
  have caches (held : GrantCache) (isHeld : before.Caches setup.wiring.cache held) :=
    caches_operate node asksOnly_adopt isHeld
  have adopts := adopts_adopt node before
  cases ran : operate node adopt before with
  | mk answer after =>
      rw [ran] at continues follows adopts caches
      cases adopts with
      | failed same | unpublished _ same | declined _ _ _ same =>
          exact coherent.of_same same continues
      | installed fetched decoded documents snapshots =>
          rcases coherent.follows.exists_last_of_fetch fetched decoded with ⟨snapshot, rfl, retells⟩
          cases (retells.eq_iff (coherent.follows.readable snapshot rfl)).mpr trivial
          refine coherent.of_uses follows continues (fun used isUsed => ?_) caches
          rcases isUsed.of_replace snapshots with rfl | isOld
          · exact .inl rfl
          · exact isOld

/-! ## Questions about users -/

/-- The grants of a user that a node has cached are those that any other node would resolve. -/
theorem of_gains (coherent : Coherent setup last before) (alike : setup.Alike)
    (works : before.Works setup.wiring table documents) (finds : setup.Finds table)
    (covers : setup.Covers node) (gains : GainsGrants (setup.settings node) node user before after)
    (continues : Continues before after) : Coherent setup last after := by
  have follows := coherent.follows.of_same (gains.toSameButCaches.samePublication continues)
  have uses (snapshot : Snapshot) (isUsed : after.Uses last snapshot) : before.Uses last snapshot := by
    rwa [Uses, gains.snapshots] at isUsed
  obtain ⟨held, isHeld, genuine⟩ := coherent.cached
  rcases gains.caches _ held isHeld with same | ⟨-, record, found, gained⟩
  · refine coherent.of_uses follows continues uses fun other isOther => ?_
    obtain rfl : other = held := CacheStore.memory.inj (isOther.symm.trans isHeld)
    exact same
  have known : setup.records node user = .ok (some record) := by
    rw [← finds]
    exact found table (by rw [works.wired, works.entries])
  refine {
    configured := fun node => by rw [continues.settings, coherent.configured]
    follows := follows
    unique := fun one other usesOne usesOther =>
      coherent.unique one other (uses one usesOne) (uses other usesOther)
    cached := ⟨_, gained, Genuine.mono ?_ continues (fun _ _ _ => id)
      fun used isUsed => .inl (uses used isUsed)⟩ }
  rcases covers with uncached | caches
  · rwa [GrantCache.put, if_pos uncached]
  · exact genuine.put alike caches (coherent.follows.drawn node)
      (coherent.unique _ · (.inr ⟨node, rfl⟩)) known

/-! ## Reloads -/

/-- The cached grants are those of snapshots that were drawn before, so none belong to a new one. -/
theorem of_reload (coherent : Coherent setup last before) (anew : before.DrawsAnew bound)
    (within : after.drawn ≤ bound)
    (ran : Ran node (reload managementSpace) before calls (.ok snapshot) after)
    (normal : ∀ type document, Reload.Lists calls type document → document.IsNormal) :
    Coherent setup (some snapshot) after := by
  obtain ⟨sources, cleared, reloads⟩ := Reload.exists_reloads ran
  have continues := continues_operate node (reload managementSpace) before
  rw [ran.operated] at continues
  rw [reloads.drawn] at within
  have isNew : ¬ before.Drawn snapshot := anew.not_drawn within reloads.make.revision
  have uses (used : Snapshot) (isUsed : after.Uses (some snapshot) used) :
      used = snapshot ∨ before.Uses last used := isUsed.of_replace reloads.snapshots
  have differs (used : Snapshot) (isOld : before.Uses last used) :
      used.revision ≠ snapshot.revision := by
    intro same
    have isDrawn := coherent.follows.drawn_of_uses isOld
    rw [Drawn, same] at isDrawn
    exact isNew isDrawn
  obtain ⟨held, isHeld, genuine⟩ := coherent.cached
  refine {
    configured := fun node => by rw [continues.settings, coherent.configured]
    follows := coherent.follows.of_reload ran isNew normal
    unique := fun one other usesOne usesOther same => ?_
    cached := ⟨_, ran.caches isHeld, genuine.mono continues
      (fun _ _ _ => get_of_get_foldl_onCache reloads.not_cachePut) fun used isUsed => ?_⟩ }
  · rcases uses one usesOne with rfl | oldOne <;> rcases uses other usesOther with rfl | oldOther
    · rfl
    · exact absurd same.symm (differs other oldOther)
    · exact absurd same (differs one oldOne)
    · exact coherent.unique one other oldOne oldOther same
  · rcases uses used isUsed with rfl | isOld
    · exact .inr isNew
    · exact .inl isOld

end Coherent

end Cluster

end AccessControl
