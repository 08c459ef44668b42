import AccessControl.Proofs.Json.Records
import AccessControl.Proofs.Reload.Adoption
import AccessControl.Proofs.Reload.Records

/-!
# Loaded snapshots

A reload keeps the active records only, and a record that was written into a published document is
read back from it as active.  So all permissions of a snapshot that was reloaded, or adopted from one
that was, are active.
-/

namespace AccessControl

/-! ## Published permissions -/

namespace Permission

variable {permission read : Permission}

theorem isActive_of_build {members : List (String × Json)} {flag : Bool}
    (found : members.lookup "is_active" = some (.bool flag))
    (built : fields.build 0 (.named members) = .ok read) : read.isActive = flag := by
  simp only [fields, Fields.build_seq_eq_ok, Fields.build_map_eq_ok] at built
  obtain ⟨_, ⟨_, ⟨_, ⟨_, ⟨_, ⟨_, ⟨_, ⟨_, -, rfl⟩, isActive, decoded, rfl⟩, _, -, rfl⟩, _, -, rfl⟩, _, -,
    rfl⟩, _, -, rfl⟩, _, -, rfl⟩, _, -, rfl⟩ := built
  rw [Fields.withDefault, Fields.field_build_named found] at decoded
  exact (Except.ok.inj decoded).symm

/-- A permission is read back from its published document with the activity that it had. -/
theorem isActive_of_decoder (decoded : decoder (Json.normal permission.toJson) = .ok read) :
    read.isActive = permission.isActive := by
  rw [toJson, Json.normal] at decoded
  refine isActive_of_build ?_ (Fields.build_of_decoder decoded)
  rw [Json.lookup_sortMembers, Json.lookup_reverse_normalMembers]
  rfl

end Permission

namespace Snapshot

/-- Whether all permissions that the snapshot holds are active. -/
def AllActive (snapshot : Snapshot) : Prop :=
  ∀ (name : String) (permission : Permission), snapshot.permissions[name]? = some permission →
    permission.isActive = true

variable {snapshot read : Snapshot}

/-- The permissions of a decoded snapshot are decoded from the member that holds them. -/
theorem permissions_of_build {members : List (String × Json)} {document : Json}
    (found : members.lookup "permissions" = some document)
    (decoded : decoder (.obj members) = .ok read) :
    Decoder.dict .ok Permission.decoder document = .ok read.permissions := by
  have built := Fields.build_of_decoder decoded
  simp only [Fields.build_seq_eq_ok, Fields.build_map_eq_ok] at built
  obtain ⟨_, ⟨_, ⟨_, ⟨_, ⟨_, ⟨_, -, rfl⟩, _, -, rfl⟩, _, -, rfl⟩, _, -, rfl⟩, _, -, rfl⟩, permissions,
    isPermissions, rfl⟩ := built
  rwa [Fields.required, Fields.field_build_named found] at isPermissions

/-- A snapshot that is read back from the document of one with active permissions has active
permissions. -/
theorem AllActive.of_decoder (active : snapshot.AllActive)
    (decoded : decoder snapshot.document = .ok read) : read.AllActive := by
  intro name permission found
  have isDict := permissions_of_build
    (by rw [Json.lookup_sortMembers, Json.lookup_reverse_normalMembers]; rfl) decoded
  rw [Json.normal_ofDict] at isDict
  obtain ⟨members, isMap, written, isMember, -, isPermission⟩ := Decoder.exists_of_dict isDict found
  obtain rfl := Json.obj.inj isMap
  obtain ⟨⟨held, original⟩, isHeld, rfl⟩ := List.mem_map.mp isMember
  rw [Permission.isActive_of_decoder isPermission]
  exact active held original (Std.ExtTreeMap.mem_toList_iff_getElem?_eq_some.mp isHeld)

end Snapshot

/-! ## Reloads -/

namespace Reload

theorem isActive_of_mem_readRecords {α : Type} {space subpath : String} {decoder : Decoder α}
    {isActive : α → Bool} {entries : List ListedEntry} {records : List α}
    (read : readRecords space subpath decoder isActive entries = .ok records) :
    ∀ record ∈ records, isActive record = true := by
  induction entries generalizing records with
  | nil =>
      obtain rfl : [] = records := Except.ok.inj read
      simp
  | cons entry rest ih =>
      obtain ⟨record, more, -, readRest, rfl⟩ := readRecords_cons_eq_ok.mp read
      have later := ih readRest
      split
      · next active => exact List.forall_mem_cons.mpr ⟨active, later⟩
      · exact later

theorem loadRecords_ensures_active {α : Type} (space subpath : String) (type : ResourceType)
    (decoder : Decoder α) (isActive : α → Bool) :
    Cluster.Ensures (loadRecords space subpath type decoder isActive)
      fun records => ∀ record ∈ records, isActive record = true :=
  .regardless fun _ => Cluster.ensures_ofExcept fun _ => isActive_of_mem_readRecords

end Reload

namespace Snapshot

theorem allActive_build {generation : Nat} {edition : Edition} {groups : List Group}
    {roles : List Role} {permissions : List Permission}
    (active : ∀ permission ∈ permissions, permission.isActive = true) :
    (build generation edition groups roles permissions).AllActive := by
  intro name permission found
  obtain ⟨record, isRecord, pair⟩ := List.mem_map.mp (Dict.mem_of_getElem?_ofList found)
  obtain ⟨rfl, rfl⟩ := Prod.mk.inj pair
  exact active record isRecord

/-- A reload answers a snapshot with active permissions. -/
theorem reload_ensures_allActive (managementSpace : String) :
    Cluster.Ensures (reload managementSpace) AllActive := by
  apply Cluster.Ensures.exclusively
  -- The snapshot before, what is published, the groups and the roles do not matter.
  iterate 4 refine .regardless fun _ => ?_
  refine (Reload.loadRecords_ensures_active _ _ _ _ _).bind fun permissions active => ?_
  iterate 5 refine .regardless fun _ => ?_
  refine .regardless fun cleared => ?_
  cases cleared with
  | ok _ => exact Cluster.ensures_pure (allActive_build active)
  | error _ => exact .regardless fun _ => Cluster.ensures_pure (allActive_build active)

/-- A snapshot that was answered by a reload, or that a node adopted when the document of such a
snapshot was published. -/
inductive Loaded : Snapshot → Prop where
  | reloaded {node : Nat} {cluster : Cluster} {managementSpace : String} {snapshot : Snapshot}
      (ran : (Cluster.operate node (reload managementSpace) cluster).1 = .ok snapshot) :
      Loaded snapshot
  | adopted {node : Nat} {cluster after : Cluster} {snapshot : Snapshot} (origin : Loaded snapshot)
      (published : (Cluster.call node (.fetchSnapshot publishedName) cluster).1 =
        .ok (some snapshot.document))
      (ran : Cluster.operate node adopt cluster = (.ok true, after)) :
      Loaded (after.nodes node).snapshot

theorem Loaded.allActive {snapshot : Snapshot} (loaded : snapshot.Loaded) : snapshot.AllActive := by
  induction loaded with
  | reloaded ran => exact reload_ensures_allActive _ _ _ _ ran
  | adopted origin published ran active =>
      obtain ⟨document, fetched, decoded⟩ := Cluster.exists_of_adopt ran
      rw [published] at fetched
      obtain rfl := Option.some.inj (Except.ok.inj fetched)
      exact active.of_decoder decoded

end Snapshot

end AccessControl
