import AccessControl.Proofs.Cluster.Frame
import AccessControl.Proofs.Reload.Records

/-!
# How a reload goes

A reload first gathers a snapshot, for which it only asks, and then establishes it, in the course of
which nothing else is decided than whether the index can be made and the document published.
-/

namespace AccessControl

namespace Reload

/-! ## The two halves -/

/-- Builds a snapshot from the management space. -/
def gather (managementSpace : String) : Operation Snapshot := do
  let current ← Operation.current
  let published ← Operation.call (.fetchSnapshot Snapshot.publishedName)
  let groups ← loadRecords managementSpace ResourceType.groupsSubpath .group Group.decoder
    Group.isActive
  let roles ← loadRecords managementSpace ResourceType.rolesSubpath .role Role.decoder Role.isActive
  let permissions ← loadRecords managementSpace ResourceType.permissionsSubpath .permission
    Permission.decoder Permission.isActive
  let edition ← Operation.request .edition
  return Snapshot.build (Snapshot.generationAfter current.generation
    (Snapshot.publishedGeneration published)) edition groups roles permissions

/-- Installs a published snapshot and drops the cached grants, if possible. -/
def finish (snapshot : Snapshot) : Operation Snapshot := do
  Operation.install snapshot
  Operation.note (.reloaded snapshot.generation snapshot.revision snapshot.counts)
  match ← Operation.attempt .cacheClear with
  | .ok _ => pure ()
  | .error error => Operation.note (.cacheNotCleared snapshot.generation error)
  return snapshot

/-- Publishes a snapshot and installs it. -/
def establish (snapshot : Snapshot) : Operation Snapshot := do
  Operation.call .prepareIndex
  Operation.call (.persistSnapshot Snapshot.publishedName snapshot.document)
  finish snapshot

/-- A reload gathers a snapshot and establishes it. -/
theorem reload_eq (managementSpace : String) :
    reload managementSpace = Operation.exclusively (gather managementSpace >>= establish) := by
  rw [gather]
  simp only [bind_assoc, pure_bind]
  rfl

open Cluster

variable {α β : Type} {node : Nat} {before after : Cluster} {calls : List Made}
  {managementSpace : String}

/-! ## Results -/

/-- Loading records is one call, and then reading what it lists. -/
theorem of_loadRecords {space subpath : String} {type : ResourceType} {decoder : Decoder α}
    {isActive : α → Bool} {answer : Except ServiceError (List α)}
    (ran : Ran node (loadRecords space subpath type decoder isActive) before calls answer after) :
    ∃ listed, StoreChange before after ∧
      calls = [⟨.loadActiveEntries space subpath type, listed⟩] ∧
      answer = listed.bind (readRecords space subpath decoder isActive) := by
  rcases ran.bind_cases with ⟨error, rfl, failed⟩ | ⟨entries, _, _, _, rfl, ran, read⟩
  · obtain ⟨change, rfl⟩ := failed.of_call
    exact ⟨_, change, rfl, rfl⟩
  · obtain ⟨change, rfl⟩ := ran.of_call
    obtain ⟨rfl, rfl, rfl⟩ := read.of_ofExcept
    exact ⟨_, change, rfl, rfl⟩

theorem exists_of_loadRecords {space subpath : String} {type : ResourceType} {decoder : Decoder α}
    {isActive : α → Bool} {records : List α}
    (ran : Ran node (loadRecords space subpath type decoder isActive) before calls (.ok records)
      after) :
    ∃ entries, StoreChange before after ∧
      calls = [⟨.loadActiveEntries space subpath type, .ok entries⟩] ∧
      readRecords space subpath decoder isActive entries = .ok records := by
  obtain ⟨listed, called, rfl, answered⟩ := of_loadRecords ran
  cases listed with
  | error error => cases answered
  | ok entries => exact ⟨entries, called, rfl, answered.symm⟩

/-! ## Gathering -/

/-- What a snapshot is gathered from: the published document and the listings. -/
structure Sources where
  published : Option Json
  groups : List ListedEntry
  roles : List ListedEntry
  permissions : List ListedEntry

/-- The calls that gather the sources. -/
def Sources.gathering (sources : Sources) (managementSpace : String) : List Made := [
  ⟨.fetchSnapshot Snapshot.publishedName, .ok sources.published⟩,
  ⟨.loadActiveEntries managementSpace ResourceType.groupsSubpath .group, .ok sources.groups⟩,
  ⟨.loadActiveEntries managementSpace ResourceType.rolesSubpath .role, .ok sources.roles⟩,
  ⟨.loadActiveEntries managementSpace ResourceType.permissionsSubpath .permission,
    .ok sources.permissions⟩]

/-- Whether a snapshot has an edition, comes after a generation and the published one, and holds
exactly the active records of its sources, the last one of each name. -/
structure Sources.Make (sources : Sources) (current : Nat) (edition : Edition)
    (snapshot : Snapshot) : Prop where
  generation : snapshot.generation =
    Snapshot.generationAfter current (Snapshot.publishedGeneration sources.published)
  revision : snapshot.revision = edition.revision
  loadedAt : snapshot.loadedAt = some edition.builtAt
  groups : ∀ key record, snapshot.groups[key]? = some record ↔
    IsLastActive Group.decoder Group.isActive Group.shortname sources.groups key record
  roles : ∀ key record, snapshot.roles[key]? = some record ↔
    IsLastActive Role.decoder Role.isActive Role.shortname sources.roles key record
  permissions : ∀ key record, snapshot.permissions[key]? = some record ↔
    IsLastActive Permission.decoder Permission.isActive Permission.shortname sources.permissions key
      record

/-- Whether all documents of the listings decode. -/
structure Sources.Decode (sources : Sources) : Prop where
  groups : AllDecode Group.decoder sources.groups
  roles : AllDecode Role.decoder sources.roles
  permissions : AllDecode Permission.decoder sources.permissions

/-- How a snapshot is gathered: from the listings, under an edition of its own. -/
structure Gathers (managementSpace : String) (node : Nat) (before : Cluster) (sources : Sources)
    (calls : List Made) (snapshot : Snapshot) (after : Cluster) : Prop where
  calls : calls = sources.gathering managementSpace
  fetched : (call node (.fetchSnapshot Snapshot.publishedName) before).1 = .ok sources.published
  decode : sources.Decode
  make : sources.Make (before.nodes node).snapshot.generation (before.editions before.drawn) snapshot
  snapshots : after.snapshots = before.snapshots
  drawn : after.drawn = before.drawn + 1

theorem exists_gathers {snapshot : Snapshot}
    (ran : Ran node (gather managementSpace) before calls (.ok snapshot) after) :
    ∃ sources, Gathers managementSpace node before sources calls snapshot after := by
  obtain ⟨_, _, _, _, rfl, current, ran⟩ := ran.exists_of_bind
  obtain ⟨published, _, _, _, rfl, fetched, ran⟩ := ran.exists_of_bind
  obtain ⟨_, _, _, _, rfl, groups, ran⟩ := ran.exists_of_bind
  obtain ⟨_, _, _, _, rfl, roles, ran⟩ := ran.exists_of_bind
  obtain ⟨_, _, _, _, rfl, permissions, ran⟩ := ran.exists_of_bind
  obtain ⟨_, _, _, _, rfl, drawn, built⟩ := ran.exists_of_bind
  obtain ⟨isCurrent, rfl, rfl⟩ := current.of_request rfl
  obtain ⟨fetching, rfl⟩ := fetched.of_call
  obtain ⟨groupEntries, groupsLoading, rfl, groupsRead⟩ := exists_of_loadRecords groups
  obtain ⟨roleEntries, rolesLoading, rfl, rolesRead⟩ := exists_of_loadRecords roles
  obtain ⟨permissionEntries, permissionsLoading, rfl, permissionsRead⟩ :=
    exists_of_loadRecords permissions
  obtain ⟨isEdition, rfl, rfl⟩ := drawn.of_request rfl
  obtain ⟨isBuilt, rfl, rfl⟩ := built.of_pure
  obtain rfl := Except.ok.inj isBuilt
  have change := ((fetching.trans groupsLoading).trans rolesLoading).trans permissionsLoading
  rw [step_edition, change.editions, change.drawn] at isEdition
  exact ⟨⟨published, groupEntries, roleEntries, permissionEntries⟩, {
    calls := rfl
    fetched := congrArg Prod.fst fetched.operated
    decode := ⟨exists_readRecords_iff.mp ⟨_, groupsRead⟩, exists_readRecords_iff.mp ⟨_, rolesRead⟩,
      exists_readRecords_iff.mp ⟨_, permissionsRead⟩⟩
    make := {
      generation := by rw [Except.ok.inj isCurrent]; rfl
      revision := congrArg Edition.revision (Except.ok.inj isEdition)
      loadedAt := congrArg (some ∘ Edition.builtAt) (Except.ok.inj isEdition)
      groups := fun _ _ => getElem?_byName_iff groupsRead
      roles := fun _ _ => getElem?_byName_iff rolesRead
      permissions := fun _ _ => getElem?_byName_iff permissionsRead }
    snapshots := change.snapshots
    drawn := congrArg (· + 1) change.drawn }⟩

/-! ## Establishing -/

/-- Nothing keeps a published snapshot from being installed. -/
theorem of_finish {snapshot : Snapshot} {answer : Except ServiceError Snapshot}
    (ran : Ran node (finish snapshot) before calls answer after) :
    answer = .ok snapshot ∧ (∃ cleared, calls = [⟨.cacheClear, cleared⟩]) ∧
      after.snapshots = replace before.snapshots node snapshot ∧ after.drawn = before.drawn := by
  rcases ran.bind_cases with ⟨_, -, failed⟩ | ⟨_, _, _, _, rfl, installed, afterInstall⟩
  · cases (failed.of_request rfl).1
  rcases afterInstall.bind_cases with ⟨_, -, failed⟩ | ⟨_, _, _, _, rfl, noted, afterNote⟩
  · cases failed.of_note.1
  rcases afterNote.bind_cases with ⟨_, -, failed⟩ | ⟨cleared, _, _, _, rfl, attempted, afterClear⟩
  · obtain ⟨_, impossible, -⟩ := failed.of_attempt
    cases impossible
  obtain ⟨-, rfl, rfl⟩ := installed.of_request rfl
  obtain ⟨-, rfl, rfl⟩ := noted.of_note
  obtain ⟨_, -, change, rfl⟩ := attempted.of_attempt
  have snapshots := change.snapshots.trans snapshots_install
  cases cleared with
  | ok _ =>
      obtain ⟨rfl, rfl, rfl⟩ := afterClear.of_pure
      exact ⟨rfl, ⟨_, rfl⟩, snapshots, change.drawn⟩
  | error error =>
      rcases afterClear.bind_cases with ⟨_, -, failed⟩ | ⟨_, _, _, _, rfl, noted, done⟩
      · cases failed.of_note.1
      obtain ⟨-, rfl, rfl⟩ := noted.of_note
      obtain ⟨rfl, rfl, rfl⟩ := done.of_pure
      exact ⟨rfl, ⟨_, rfl⟩, snapshots, change.drawn⟩

/-- How a snapshot is established: under its document, and then as the current one. -/
theorem exists_of_establish {snapshot result : Snapshot}
    (ran : Ran node (establish snapshot) before calls (.ok result) after) :
    result = snapshot ∧ (∃ cleared, calls = [⟨.prepareIndex, .ok ()⟩,
        ⟨.persistSnapshot Snapshot.publishedName snapshot.document, .ok ()⟩,
        ⟨.cacheClear, cleared⟩]) ∧
      after.snapshots = replace before.snapshots node snapshot ∧ after.drawn = before.drawn := by
  obtain ⟨_, _, _, _, rfl, prepared, afterIndex⟩ := ran.exists_of_bind
  obtain ⟨_, _, _, _, rfl, persisted, afterPersist⟩ := afterIndex.exists_of_bind
  obtain ⟨preparing, rfl⟩ := prepared.of_call
  obtain ⟨persisting, rfl⟩ := persisted.of_call
  obtain ⟨isResult, ⟨cleared, rfl⟩, snapshots, drawn⟩ := of_finish afterPersist
  have change := preparing.trans persisting
  exact ⟨Except.ok.inj isResult, ⟨cleared, rfl⟩, by rw [snapshots, change.snapshots],
    drawn.trans change.drawn⟩

/-! ## Reloading -/

/-- The calls of a reload that succeeds. -/
def Sources.reloading (sources : Sources) (managementSpace : String) (document : Json)
    (cleared : Except ServiceError Unit) : List Made :=
  sources.gathering managementSpace ++ [⟨.prepareIndex, .ok ()⟩,
    ⟨.persistSnapshot Snapshot.publishedName document, .ok ()⟩, ⟨.cacheClear, cleared⟩]

/-- How a reload succeeds: it gathers a snapshot, publishes its document and installs it, and whether
the cached grants are dropped then does not matter. -/
structure Reloads (managementSpace : String) (node : Nat) (before : Cluster) (sources : Sources)
    (cleared : Except ServiceError Unit) (calls : List Made) (snapshot : Snapshot)
    (after : Cluster) : Prop where
  calls : calls = sources.reloading managementSpace snapshot.document cleared
  fetched : (call node (.fetchSnapshot Snapshot.publishedName) (step node .lock before).2).1 =
    .ok sources.published
  decode : sources.Decode
  make : sources.Make (before.snapshots node).generation (before.editions before.drawn) snapshot
  snapshots : after.snapshots = replace before.snapshots node snapshot
  drawn : after.drawn = before.drawn + 1

theorem exists_reloads {snapshot : Snapshot}
    (ran : Ran node (reload managementSpace) before calls (.ok snapshot) after) :
    ∃ sources cleared, Reloads managementSpace node before sources cleared calls snapshot after := by
  rw [reload_eq] at ran
  obtain ⟨_, inside, rfl⟩ := ran.of_exclusively
  obtain ⟨gathered, _, _, _, rfl, gathering, establishing⟩ := inside.exists_of_bind
  obtain ⟨sources, gathers⟩ := exists_gathers gathering
  obtain ⟨rfl, ⟨cleared, rfl⟩, snapshots, drawn⟩ := exists_of_establish establishing
  refine ⟨sources, cleared, congrArg (· ++ _) gathers.calls, gathers.fetched, gathers.decode, ?_,
    ?_, ?_⟩
  · have make := gathers.make
    rwa [← Cluster.snapshots, snapshots_lock] at make
  · rw [snapshots_unlock, snapshots, gathers.snapshots, snapshots_lock]
  · exact drawn.trans gathers.drawn

end Reload

end AccessControl
