import AccessControl.Proofs.Cluster.Filing
import AccessControl.Proofs.Reload.Run

/-!
# When a reload succeeds

A reload that no call keeps from it succeeds just if all listed documents decode, and then the node
works with exactly the active records.  Whether the cached grants can be dropped does not matter.
-/

namespace AccessControl

namespace Reload

open Cluster

variable {α β : Type} {node number : Nat} {before after : Cluster} {calls first second : List Made}
  {managementSpace : String} {snapshot : Snapshot}

/-! ## Failures -/

/-- Whether a document decodes into a record of the type. -/
def IsRecord : ResourceType → Json → Prop
  | .group, document => ∃ group, Group.decoder document = .ok group
  | .role, document => ∃ role, Role.decoder document = .ok role
  | .permission, document => ∃ permission, Permission.decoder document = .ok permission
  | _, _ => False

/-- Whether one of the calls listed the document for entries of the type. -/
def Lists (calls : List Made) (type : ResourceType) (document : Json) : Prop :=
  ∃ space subpath entries, ⟨.loadActiveEntries space subpath type, .ok entries⟩ ∈ calls ∧
    ∃ entry ∈ entries, entry.document = document

/-- Whether no call failed other than one to drop the cached grants. -/
def Undisturbed (calls : List Made) : Prop :=
  ∀ made ∈ calls, made.call.kind ≠ .cacheClear → ∃ value, made.answer = .ok value

theorem Lists.mono {type : ResourceType} {document : Json} (lists : Lists first type document)
    (sublist : first ⊆ second) : Lists second type document := by
  obtain ⟨space, subpath, entries, made, listed⟩ := lists
  exact ⟨space, subpath, entries, sublist made, listed⟩

theorem not_lists_nil {type : ResourceType} {document : Json} : ¬ Lists [] type document := by
  rintro ⟨space, subpath, entries, member, -⟩
  cases member

theorem Lists.of_append {type : ResourceType} {document : Json}
    (lists : Lists (first ++ second) type document) :
    Lists first type document ∨ Lists second type document := by
  obtain ⟨space, subpath, entries, made, listed⟩ := lists
  rcases List.mem_append.mp made with earlier | later
  · exact .inl ⟨space, subpath, entries, earlier, listed⟩
  · exact .inr ⟨space, subpath, entries, later, listed⟩

theorem Undisturbed.mono (undisturbed : Undisturbed second) (sublist : first ⊆ second) :
    Undisturbed first :=
  fun made member => undisturbed made (sublist member)

/-- Whether an operation that no call keeps from it fails only when a listed document does not
decode, which it then reports as a snapshot that cannot be loaded. -/
def FailsOnlyUnreadable (operation : Operation α) : Prop :=
  ∀ node before calls error after, Ran node operation before calls (.error error) after →
    Undisturbed calls → error.kind = .snapshotLoad ∧
      ∃ type document, Lists calls type document ∧ ¬ IsRecord type document

namespace FailsOnlyUnreadable

theorem bind {operation : Operation α} {next : α → Operation β}
    (before : FailsOnlyUnreadable operation) (later : ∀ value, FailsOnlyUnreadable (next value)) :
    FailsOnlyUnreadable (operation >>= next) := by
  intro node _ calls error _ ran undisturbed
  rcases ran.bind_cases with ⟨_, failure, failed⟩ | ⟨value, _, first, second, rfl, -, failed⟩
  · obtain rfl := Except.error.inj failure
    exact before _ _ _ _ _ failed undisturbed
  · obtain ⟨kind, type, document, lists, unreadable⟩ :=
      later value _ _ _ _ _ failed (undisturbed.mono (List.subset_append_right _ _))
    exact ⟨kind, type, document, lists.mono (List.subset_append_right _ _), unreadable⟩

theorem pure (value : α) : FailsOnlyUnreadable (Pure.pure value) :=
  fun _ _ _ _ _ ran _ => nomatch ran.of_pure.1

theorem request {request : Request}
    (silent : ∀ node cluster, (step node request cluster).2.journal = cluster.journal) :
    FailsOnlyUnreadable (Operation.request request) :=
  fun _ _ _ _ _ ran _ => nomatch (ran.of_request (silent _ _)).1

theorem call {storeCall : StoreCall} (other : storeCall.kind ≠ .cacheClear) :
    FailsOnlyUnreadable (Operation.call storeCall) := by
  intro node before calls error after ran undisturbed
  obtain ⟨-, rfl⟩ := ran.of_call
  obtain ⟨value, impossible⟩ := undisturbed _ (List.mem_singleton.mpr rfl) other
  cases impossible

theorem loadRecords (space subpath : String) {type : ResourceType} {decoder : Decoder α}
    (isActive : α → Bool)
    (isRecord : ∀ document, IsRecord type document ↔ ∃ record, decoder document = .ok record) :
    FailsOnlyUnreadable (loadRecords space subpath type decoder isActive) := by
  intro node before calls error after ran undisturbed
  obtain ⟨listed, -, rfl, answered⟩ := of_loadRecords ran
  cases listed with
  | error error =>
      obtain ⟨entries, impossible⟩ := undisturbed _ (List.mem_singleton.mpr rfl) nofun
      cases impossible
  | ok entries =>
      have unread : ¬ AllDecode decoder entries := by
        rw [← exists_readRecords_iff]
        rintro ⟨records, read⟩
        cases answered.trans read
      simp only [AllDecode, not_forall] at unread
      obtain ⟨entry, member, unreadable⟩ := unread
      exact ⟨kind_of_readRecords answered.symm, type, entry.document,
        ⟨space, subpath, entries, List.mem_singleton.mpr rfl, entry, member, rfl⟩,
        (isRecord _).not.mpr unreadable⟩

end FailsOnlyUnreadable

theorem failsOnlyUnreadable_gather : FailsOnlyUnreadable (gather managementSpace) := by
  refine .bind (.request fun _ _ => rfl) fun current => .bind (.call nofun) fun published => ?_
  refine .bind (.loadRecords _ _ _ fun _ => .rfl) fun groups => ?_
  refine .bind (.loadRecords _ _ _ fun _ => .rfl) fun roles => ?_
  refine .bind (.loadRecords _ _ _ fun _ => .rfl) fun permissions => ?_
  exact .bind (.request fun _ _ => rfl) fun edition => .pure _

theorem failsOnlyUnreadable_establish : FailsOnlyUnreadable (establish snapshot) := by
  refine .bind (.call nofun) fun _ => .bind (.call nofun) fun _ => ?_
  exact fun _ _ _ _ _ ran _ => nomatch (of_finish ran).1

theorem failsOnlyUnreadable_reload : FailsOnlyUnreadable (reload managementSpace) := by
  intro node before calls error after ran undisturbed
  rw [reload_eq] at ran
  obtain ⟨_, inside, -⟩ := ran.of_exclusively
  exact failsOnlyUnreadable_gather.bind (fun _ => failsOnlyUnreadable_establish) _ _ _ _ _ inside
    undisturbed

/-! ## Successes -/

/-- Whether a document is listed for records of the type. -/
def Sources.Lists (sources : Sources) : ResourceType → Json → Prop
  | .group, document => ∃ entry ∈ sources.groups, entry.document = document
  | .role, document => ∃ entry ∈ sources.roles, entry.document = document
  | .permission, document => ∃ entry ∈ sources.permissions, entry.document = document
  | _, _ => False

theorem lists_reloading {sources : Sources} {published : Json} {cleared : Except ServiceError Unit}
    {type : ResourceType} {document : Json} :
    Lists (sources.reloading managementSpace published cleared) type document ↔
      sources.Lists type document := by
  constructor
  · rintro ⟨space, subpath, entries, made, entry, member, rfl⟩
    simp only [Sources.reloading, Sources.gathering, List.cons_append, List.nil_append,
      List.mem_cons, Made.mk.injEq, reduceCtorEq, false_and, List.not_mem_nil, or_false, false_or,
      StoreCall.loadActiveEntries.injEq] at made
    rcases made with ⟨⟨-, -, rfl⟩, same⟩ | ⟨⟨-, -, rfl⟩, same⟩ | ⟨⟨-, -, rfl⟩, same⟩
    all_goals
      obtain rfl := Except.ok.inj (eq_of_heq same)
      exact ⟨entry, member, rfl⟩
  · intro lists
    cases type with
    | group => exact ⟨managementSpace, ResourceType.groupsSubpath, _, .tail _ (.head _), lists⟩
    | role => exact ⟨managementSpace, ResourceType.rolesSubpath, _, .tail _ (.tail _ (.head _)), lists⟩
    | permission =>
        exact ⟨managementSpace, ResourceType.permissionsSubpath, _,
          .tail _ (.tail _ (.tail _ (.head _))), lists⟩
    | _ => cases lists

namespace Reloads

variable {sources : Sources} {cleared : Except ServiceError Unit}

/-- All listed documents of a reload that succeeds decode. -/
theorem isRecord_of_lists {type : ResourceType} {document : Json}
    (reloads : Reloads managementSpace node before sources cleared calls snapshot after)
    (lists : Lists calls type document) : IsRecord type document := by
  rw [reloads.calls, lists_reloading] at lists
  cases type with
  | group => obtain ⟨entry, member, rfl⟩ := lists; exact reloads.decode.groups entry member
  | role => obtain ⟨entry, member, rfl⟩ := lists; exact reloads.decode.roles entry member
  | permission => obtain ⟨entry, member, rfl⟩ := lists; exact reloads.decode.permissions entry member
  | _ => cases lists

/-- What a reload builds is read back from its document. -/
theorem isReadable
    (reloads : Reloads managementSpace node before sources cleared calls snapshot after)
    (normal : ∀ type document, Lists calls type document → document.IsNormal) :
    snapshot.IsReadable where
  generation := by rw [reloads.make.generation]; exact Snapshot.generationAfter_lt _ _
  permissions key permission found := by
    obtain ⟨entry, member, isRecord⟩ :=
      ((reloads.make.permissions key permission).mp found).exists_record
    rw [reloads.calls] at normal
    have listed : sources.Lists .permission entry.document := ⟨entry, member, rfl⟩
    exact Permission.isReadable_of_decoder (normal _ _ (lists_reloading.mpr listed)) isRecord.decoded

/-- A reload caches no grants. -/
theorem not_cachePut
    (reloads : Reloads managementSpace node before sources cleared calls snapshot after) :
    ∀ made ∈ calls, made.call.kind ≠ .cachePut := by
  simp [reloads.calls, Sources.reloading, Sources.gathering, StoreCall.kind]

/-- A reload leaves the document of the snapshot in the store that the node is wired to. -/
theorem holds {documents : Dict String Json} {medium : Medium}
    (reloads : Reloads managementSpace node before sources cleared calls snapshot after)
    (ran : Ran node (reload managementSpace) before calls (.ok snapshot) after)
    (holds : before.Holds (before.nodes node).wiring.snapshots medium documents) :
    after.Holds (before.nodes node).wiring.snapshots medium
      (documents.insert Snapshot.publishedName snapshot.document) := by
  have published := ran.holds holds
  rw [reloads.calls] at published
  simpa [Sources.reloading, Sources.gathering, Made.onDocuments] using published

theorem shelves {documents : Dict String Json}
    (reloads : Reloads managementSpace node before sources cleared calls snapshot after)
    (ran : Ran node (reload managementSpace) before calls (.ok snapshot) after)
    (shelves : before.Shelves (before.nodes node).wiring.snapshots documents) :
    after.Shelves (before.nodes node).wiring.snapshots
      (documents.insert Snapshot.publishedName snapshot.document) := by
  have held : before.Holds (before.nodes node).wiring.snapshots .memory documents := shelves
  exact reloads.holds ran held

end Reloads

/-- A reload that no call keeps from it, other than one to drop the cached grants, succeeds just if
all listed documents decode, those of inactive records included, and otherwise is reported as a
snapshot that cannot be loaded.  When it succeeds, the node works with the snapshot that is read back
from the published document, that comes after the generations of the node and of what was published,
and that holds exactly the active records of the listings, of equal names the last.  Documents are
listed in normal form, as they are kept. -/
theorem reload_succeeds_iff_all_decode {answer : Except ServiceError Snapshot}
    (ran : Ran node (reload managementSpace) before calls answer after)
    (undisturbed : Undisturbed calls)
    (normal : ∀ type document, Lists calls type document → document.IsNormal) :
    ((∃ snapshot, answer = .ok snapshot) ↔
        ∀ type document, Lists calls type document → IsRecord type document) ∧
      (∀ error, answer = .error error → error.kind = .snapshotLoad) ∧
      ∀ snapshot, answer = .ok snapshot → ∃ sources cleared,
        Reloads managementSpace node before sources cleared calls snapshot after ∧
        after.snapshots node = snapshot ∧
        Snapshot.decoder snapshot.document = .ok snapshot ∧
        (∀ documents, before.Shelves (before.nodes node).wiring.snapshots documents →
          after.Shelves (before.nodes node).wiring.snapshots
            (documents.insert Snapshot.publishedName snapshot.document)) ∧
        ∃ claimed, (Snapshot.Claims sources.published claimed ∨
            claimed = 0 ∧ ∀ generation, ¬ Snapshot.Claims sources.published generation) ∧
          snapshot.generation =
            min (max (before.snapshots node).generation claimed + 1) (2 ^ 64 - 1) := by
  refine ⟨⟨?_, ?_⟩, ?_, ?_⟩
  · rintro ⟨snapshot, rfl⟩ type document lists
    obtain ⟨sources, cleared, reloads⟩ := exists_reloads ran
    exact reloads.isRecord_of_lists lists
  · intro allDecode
    cases answer with
    | ok snapshot => exact ⟨snapshot, rfl⟩
    | error error =>
        obtain ⟨-, type, document, lists, unreadable⟩ :=
          failsOnlyUnreadable_reload _ _ _ _ _ ran undisturbed
        exact absurd (allDecode type document lists) unreadable
  · rintro error rfl
    exact (failsOnlyUnreadable_reload _ _ _ _ _ ran undisturbed).1
  · rintro snapshot rfl
    obtain ⟨sources, cleared, reloads⟩ := exists_reloads ran
    refine ⟨sources, cleared, reloads, ?_, (reloads.isReadable normal).decoder_document,
      fun documents => reloads.shelves ran, _, Snapshot.claims_publishedGeneration sources.published,
      reloads.make.generation⟩
    rw [reloads.snapshots, replace_same]

/-! ## A newsroom -/

namespace Newsroom

/-- A role with one permission, in normal form. -/
def role (permission : String) (isActive : Bool) : Json :=
  .obj [("is_active", .bool isActive), ("permissions", .arr [.str permission]),
    ("shortname", .str "editor")]

/-- Three versions of a role, of which the last one is not active. -/
def roles : List ListedEntry :=
  [⟨"first", role "read" true⟩, ⟨"second", role "write" true⟩, ⟨"third", role "publish" false⟩]

/-- Nodes that are listed the roles, and whose cached grants cannot be dropped. -/
def management : Cluster where
  editions number := ⟨.ofNat (number + 1), .epoch⟩
  listings _ := Std.ExtTreeMap.ofList [("roles", roles)]
  cacheStores _ := { store := .memory ∅, faults := fun _ => some "cache is down" }

/-- The cluster after a node reloaded. -/
def reloaded : Except ServiceError Snapshot × Cluster :=
  operate 0 (reload "management") management

def built : Snapshot := (reloaded.2.nodes 0).snapshot

/-- The calls of the reload. -/
def made : List Made :=
  Sources.reloading ⟨none, [], roles, []⟩ "management" built.document
    (.error (.unavailable (.switchedOff "cache is down")))

theorem ran_reload : Ran 0 (reload "management") management made (.ok built) reloaded.2 :=
  ⟨rfl, reloaded.2.journal, rfl, rfl⟩

theorem undisturbed_made : Undisturbed made := by
  simp [Undisturbed, made, Sources.reloading, Sources.gathering, StoreCall.kind]

theorem isNormal_of_lists (type : ResourceType) (document : Json) (lists : Lists made type document) :
    document.IsNormal := by
  rw [made, lists_reloading] at lists
  have each : ∀ entry ∈ roles, entry.document.IsNormal :=
    List.forall_mem_cons.mpr ⟨rfl, List.forall_mem_cons.mpr ⟨rfl, List.forall_mem_cons.mpr
      ⟨rfl, List.forall_mem_nil _⟩⟩⟩
  cases type with
  | role => obtain ⟨entry, member, rfl⟩ := lists; exact each entry member
  | group | permission => obtain ⟨_, member, -⟩ := lists; cases member
  | _ => cases lists

/-- The last active version of the role is held. -/
example : (built.roles["editor"]?).map (fun role => role.permissions.map Shortname.text) =
    some ["write"] := rfl

end Newsroom

theorem reload_succeeds_iff_all_decode_newsroom :
    (∀ type document, Lists Newsroom.made type document → IsRecord type document) ∧
      ∃ sources cleared, Reloads "management" 0 Newsroom.management sources cleared Newsroom.made
          Newsroom.built Newsroom.reloaded.2 ∧
        Snapshot.decoder Newsroom.built.document = .ok Newsroom.built := by
  obtain ⟨succeeds, -, outcome⟩ := reload_succeeds_iff_all_decode Newsroom.ran_reload
    Newsroom.undisturbed_made Newsroom.isNormal_of_lists
  obtain ⟨sources, cleared, reloads, -, decoded, -⟩ := outcome Newsroom.built rfl
  exact ⟨succeeds.mp ⟨Newsroom.built, rfl⟩, sources, cleared, reloads, decoded⟩

end Reload

end AccessControl
