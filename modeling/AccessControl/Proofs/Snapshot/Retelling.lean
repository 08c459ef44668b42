import AccessControl.Proofs.Json.Retelling
import AccessControl.Proofs.Snapshot.Document

/-!
# What texts make of snapshots

A snapshot that is read from the text of a document has all of its parts again, except that the values
that permissions allow may differ where a number is not read back from its own text.  So it is the
snapshot of the document exactly if the text keeps the document.
-/

namespace AccessControl

/-! ## Records without numbers -/

namespace Json

variable {α : Type}

theorem keepsNumbers_ofTexts (texts : List String) : (ofTexts texts).KeepsNumbers := by
  refine keepsNumbers_arr_iff.mpr fun item isItem => ?_
  rcases List.mem_map.mp isItem with ⟨text, -, rfl⟩
  exact keepsNumbers_str text

theorem keepsNumbers_ofNames (names : List Shortname) : (ofNames names).KeepsNumbers := by
  refine keepsNumbers_arr_iff.mpr fun item isItem => ?_
  rcases List.mem_map.mp isItem with ⟨name, -, rfl⟩
  exact keepsNumbers_str name.text

theorem keepsNumbers_ofWords [Vocabulary α] [Ord α] [Std.TransOrd α] (words : Bag α) :
    (ofWords words).KeepsNumbers := by
  refine keepsNumbers_arr_iff.mpr fun item isItem => ?_
  rcases List.mem_map.mp isItem with ⟨word, -, rfl⟩
  exact keepsNumbers_str _

theorem keepsNumbers_ofDict {encode : α → Json} {values : Dict String α}
    (each : ∀ value, (encode value).KeepsNumbers) : (ofDict encode values).KeepsNumbers := by
  refine keepsNumbers_obj_iff.mpr fun member isMember => ?_
  rcases List.mem_map.mp isMember with ⟨held, -, rfl⟩
  exact each held.2

end Json

theorem Group.keepsNumbers_toJson (group : Group) : group.toJson.KeepsNumbers := by
  rw [toJson, Json.keepsNumbers_obj_iff]
  simp only [List.forall_mem_cons]
  exact ⟨Json.keepsNumbers_str _, Json.keepsNumbers_bool _, Json.keepsNumbers_ofNames _,
    List.forall_mem_nil _⟩

theorem Role.keepsNumbers_toJson (role : Role) : role.toJson.KeepsNumbers := by
  rw [toJson, Json.keepsNumbers_obj_iff]
  simp only [List.forall_mem_cons]
  exact ⟨Json.keepsNumbers_str _, Json.keepsNumbers_bool _, Json.keepsNumbers_ofNames _,
    List.forall_mem_nil _⟩

/-! ## Maps of records -/

/-- A map of records is given back if each record that is decoded again is. -/
theorem Decoder.eq_of_reread_ofDict {α : Type} {depth : Nat} {item : Decoder α} {encode : α → Json}
    {values : Dict String α} {read : Json}
    (gives : Json.reread depth (.ofDict encode values) = some read)
    (decoded : dict .ok item read = .ok values)
    (each : ∀ (name : String) (value : α) (given : Json), values[name]? = some value →
      Json.reread (depth - 1) (encode value) = some given → item given = .ok value →
        given = encode value) : read = .ofDict encode values := by
  rcases Json.exists_of_reread_obj gives with ⟨members, isMembers, rfl⟩
  have ascending : Json.Ascending members :=
    (Json.ascending_toList encode values).of_names (Json.fst_of_rereadMembers isMembers)
  refine congrArg Json.obj (Json.eq_of_rereadMembers isMembers fun name document given held isGiven
    again => ?_)
  rcases List.mem_map.mp held with ⟨⟨key, value⟩, isHeld, same⟩
  cases same
  have found : values[name]? = some value := Std.ExtTreeMap.mem_toList_iff_getElem?_eq_some.mp isHeld
  rcases exists_of_dict decoded found with ⟨_, isMap, other, isOther, isName, isValue⟩
  cases isMap
  cases Except.ok.inj isName
  have isSame : some other.2 = some given :=
    (Fields.lookup_of_mem ascending.nodup isOther).symm.trans
      (Fields.lookup_of_mem ascending.nodup isGiven)
  cases isSame
  exact each _ value _ found again isValue

/-! ## Permissions -/

namespace Permission

variable {permission : Permission} {depth : Nat} {read : Json}

/-- The values that a decoded permission allows are decoded from a field of it. -/
theorem allowedValues_of_decoder {members : List (String × Json)} {document : Json}
    (decoded : decoder (.obj members) = .ok permission)
    (found : members.lookup "allowed_fields_values" = some document) :
    Decoder.dict .ok AllowedValues.decoder document = .ok permission.allowedValues := by
  have built := Fields.build_of_decoder decoded
  simp only [fields, Fields.build_seq_eq_ok, Fields.build_map_eq_ok] at built
  obtain ⟨_, ⟨_, ⟨_, ⟨_, ⟨_, ⟨_, ⟨_, ⟨_, -, rfl⟩, _, -, rfl⟩, _, -, rfl⟩, _, -, rfl⟩, _, -, rfl⟩, _, -,
    rfl⟩, _, -, rfl⟩, allowed, isAllowed, rfl⟩ := built
  exact (Fields.field_build_named found).symm.trans isAllowed

/-- A permission that is decoded again from what its text gives back was given back. -/
theorem eq_of_reread (readable : permission.IsReadable)
    (gives : Json.reread depth permission.toJson.normal = some read)
    (decoded : decoder read = .ok permission) : read = permission.toJson.normal := by
  rcases Json.exists_of_reread_obj gives with ⟨members, isMembers, rfl⟩
  refine congrArg Json.obj (Json.eq_of_reread_sortMembers isMembers fun name value given isField found
    again => ?_)
  have same (keeps : value.KeepsNumbers) : given = value.normal :=
    Json.eq_of_reread value.normal _ given (Json.KeepsNumbers.normal value keeps) again
  simp only [List.mem_cons, Prod.mk.injEq, List.not_mem_nil, or_false] at isField
  rcases isField with ⟨-, rfl⟩ | ⟨-, rfl⟩ | ⟨-, rfl⟩ | ⟨-, rfl⟩ | ⟨-, rfl⟩ | ⟨-, rfl⟩ | ⟨-, rfl⟩ | ⟨rfl, rfl⟩
  · exact same (Json.keepsNumbers_str _)
  · exact same (Json.keepsNumbers_bool _)
  · exact same (Json.keepsNumbers_ofDict Json.keepsNumbers_ofTexts)
  · exact same (Json.keepsNumbers_ofWords _)
  · exact same (Json.keepsNumbers_ofWords _)
  · exact same (Json.keepsNumbers_ofWords _)
  · exact same (Json.keepsNumbers_ofTexts _)
  · rw [Json.normal_ofDict] at again ⊢
    refine Decoder.eq_of_reread_ofDict again (allowedValues_of_decoder decoded found) ?_
    intro key values other isAllowed _ isDecoded
    rw [(readable key values isAllowed).isNormal, AllowedValues.toJson_of_decoder isDecoded]

end Permission

/-! ## Snapshots -/

namespace Snapshot

variable {snapshot given : Snapshot} {members : List (String × Json)} {read : Json}

/-- Whether the parts of a snapshot are what is decoded from the members of a map, where there are
members for them. -/
structure IsDecodedFrom (snapshot : Snapshot) (members : List (String × Json)) : Prop where
  generation : ∀ document, members.lookup "generation" = some document →
    Decoder.natural 64 document = .ok snapshot.generation
  revision : ∀ document, members.lookup "revision" = some document →
    Decoder.uuid document = .ok snapshot.revision
  loadedAt : ∀ document, members.lookup "loaded_at" = some document →
    Decoder.optional .timestamp document = .ok snapshot.loadedAt
  groups : ∀ document, members.lookup "groups" = some document →
    Decoder.dict .ok Group.decoder document = .ok snapshot.groups
  roles : ∀ document, members.lookup "roles" = some document →
    Decoder.dict .ok Role.decoder document = .ok snapshot.roles
  permissions : ∀ document, members.lookup "permissions" = some document →
    Decoder.dict .ok Permission.decoder document = .ok snapshot.permissions

theorem isDecodedFrom_of_decoder (decoded : decoder (.obj members) = .ok snapshot) :
    snapshot.IsDecodedFrom members := by
  have built := Fields.build_of_decoder decoded
  simp only [Fields.build_seq_eq_ok, Fields.build_map_eq_ok] at built
  obtain ⟨_, ⟨_, ⟨_, ⟨_, ⟨_, ⟨generation, isGeneration, rfl⟩, revision, isRevision, rfl⟩, loadedAt,
    isLoadedAt, rfl⟩, groups, isGroups, rfl⟩, roles, isRoles, rfl⟩, permissions, isPermissions, rfl⟩ :=
    built
  exact {
    generation := fun _ found => (Fields.field_build_named found).symm.trans isGeneration
    revision := fun _ found => (Fields.field_build_named found).symm.trans isRevision
    loadedAt := fun _ found => (Fields.field_build_named found).symm.trans isLoadedAt
    groups := fun _ found => (Fields.field_build_named found).symm.trans isGroups
    roles := fun _ found => (Fields.field_build_named found).symm.trans isRoles
    permissions := fun _ found => (Fields.field_build_named found).symm.trans isPermissions }

/-- The members of a snapshot's document, before they are put in order. -/
def fields (snapshot : Snapshot) : List (String × Json) := [
  ("generation", .int snapshot.generation),
  ("revision", .str snapshot.revision.text),
  ("loaded_at", snapshot.loadedAt.elim .null fun time => .str time.text),
  ("groups", .ofDict Group.toJson snapshot.groups),
  ("roles", .ofDict Role.toJson snapshot.roles),
  ("permissions", .ofDict Permission.toJson snapshot.permissions)]

theorem document_eq_fields : snapshot.document = .normal (.obj snapshot.fields) := rfl

/-- What is read from the text of a snapshot's document is a map, read member by member. -/
theorem exists_members_of_read (gives : Json.read snapshot.document.write = .ok read) :
    ∃ members, Json.rereadMembers (Json.depthLimit - 1) (Json.sortMembers
      (Json.normalMembers snapshot.fields)) = some members ∧ read = .obj members := by
  rw [document_eq_fields, Json.read_write_eq_ok_iff_reread (Json.normal_normal _)] at gives
  exact Json.exists_of_reread_obj gives

/-- A readable snapshot is decoded from the members of its document. -/
theorem IsReadable.isDecodedFrom (readable : snapshot.IsReadable) :
    snapshot.IsDecodedFrom (Json.sortMembers (Json.normalMembers snapshot.fields)) :=
  isDecodedFrom_of_decoder readable.decoder_document

theorem keepsNumbers_loadedAt (snapshot : Snapshot) :
    (snapshot.loadedAt.elim Json.null fun time => .str time.text).KeepsNumbers := by
  cases snapshot.loadedAt with
  | none => exact Json.keepsNumbers_null
  | some time => exact Json.keepsNumbers_str _

/-- A part of a snapshot is found in its document, in normal form. -/
theorem lookup_of_fields {name : String} {value : Json}
    (isField : snapshot.fields.reverse.lookup name = some value) :
    (Json.sortMembers (Json.normalMembers snapshot.fields)).lookup name = some value.normal := by
  rw [Json.lookup_sortMembers, Json.lookup_reverse_normalMembers, isField]
  rfl

variable {depth : Nat}
  (gives : Json.rereadMembers depth (Json.sortMembers (Json.normalMembers snapshot.fields)) =
    some members)

include gives

/-- A part whose numbers are kept is decoded as it was written. -/
theorem eq_of_keepsNumbers {α : Type} {item : Decoder α} {name : String} {value : Json}
    {written retold : α} (isField : snapshot.fields.reverse.lookup name = some value)
    (keeps : value.KeepsNumbers)
    (original : ∀ document, (Json.sortMembers (Json.normalMembers snapshot.fields)).lookup name =
      some document → item document = .ok written)
    (again : ∀ document, members.lookup name = some document → item document = .ok retold) :
    retold = written := by
  have found := lookup_of_fields isField
  have foundThen := (Json.KeepsNumbers.normal value keeps).lookup_of_rereadMembers gives found
  exact Except.ok.inj ((again _ foundThen).symm.trans (original _ found))

/-- What is decoded from the text of a readable snapshot differs from it in permissions at most. -/
theorem IsReadable.eq_of_members (readable : snapshot.IsReadable)
    (decoded : decoder (.obj members) = .ok given) :
    given = { snapshot with permissions := given.permissions } := by
  have original := readable.isDecodedFrom
  have retold := isDecodedFrom_of_decoder decoded
  have generation : given.generation = snapshot.generation :=
    eq_of_keepsNumbers gives rfl (Json.keepsNumbers_natural readable.generation)
      original.generation retold.generation
  have revision : given.revision = snapshot.revision :=
    eq_of_keepsNumbers gives rfl (Json.keepsNumbers_str _) original.revision retold.revision
  have loadedAt : given.loadedAt = snapshot.loadedAt :=
    eq_of_keepsNumbers gives rfl snapshot.keepsNumbers_loadedAt original.loadedAt retold.loadedAt
  have groups : given.groups = snapshot.groups :=
    eq_of_keepsNumbers gives rfl (Json.keepsNumbers_ofDict Group.keepsNumbers_toJson)
      original.groups retold.groups
  have roles : given.roles = snapshot.roles :=
    eq_of_keepsNumbers gives rfl (Json.keepsNumbers_ofDict Role.keepsNumbers_toJson)
      original.roles retold.roles
  cases given
  cases generation
  cases revision
  cases loadedAt
  cases groups
  cases roles
  rfl

/-- A readable snapshot that is decoded again from what its text gives back was given back. -/
theorem IsReadable.eq_fields_of_members (readable : snapshot.IsReadable)
    (decoded : decoder (.obj members) = .ok snapshot) :
    members = Json.sortMembers (Json.normalMembers snapshot.fields) := by
  refine Json.eq_of_reread_sortMembers gives fun name value part isField found again => ?_
  have same (keeps : value.KeepsNumbers) : part = value.normal :=
    Json.eq_of_reread value.normal _ part (Json.KeepsNumbers.normal value keeps) again
  simp only [fields, List.mem_cons, Prod.mk.injEq, List.not_mem_nil, or_false] at isField
  rcases isField with ⟨-, rfl⟩ | ⟨-, rfl⟩ | ⟨-, rfl⟩ | ⟨-, rfl⟩ | ⟨-, rfl⟩ | ⟨rfl, rfl⟩
  · exact same (Json.keepsNumbers_natural readable.generation)
  · exact same (Json.keepsNumbers_str _)
  · exact same snapshot.keepsNumbers_loadedAt
  · exact same (Json.keepsNumbers_ofDict Group.keepsNumbers_toJson)
  · exact same (Json.keepsNumbers_ofDict Role.keepsNumbers_toJson)
  · rw [Json.normal_ofDict] at again ⊢
    refine Decoder.eq_of_reread_ofDict again
      ((isDecodedFrom_of_decoder decoded).permissions _ found) ?_
    intro key permission other isHeld isGiven isDecoded
    exact Permission.eq_of_reread (readable.permissions key permission isHeld) isGiven isDecoded

omit gives

/-- What is read from the text of a readable snapshot claims the generation of the snapshot. -/
theorem IsReadable.publishedGeneration_of_read (readable : snapshot.IsReadable)
    (isRead : Json.read snapshot.document.write = .ok read) :
    publishedGeneration (some read) = snapshot.generation := by
  rcases exists_members_of_read isRead with ⟨members, gives, rfl⟩
  have isField : snapshot.fields.reverse.lookup "generation" = some (.int snapshot.generation) := rfl
  have found : members.lookup "generation" = some (.int snapshot.generation) :=
    (Json.keepsNumbers_natural readable.generation).lookup_of_rereadMembers gives
      (lookup_of_fields isField)
  rw [publishedGeneration, Option.bind_some, Json.member?, found]
  exact congrArg (Option.getD · 0) (if_pos readable.generation)

/-- What is decoded from the text of a readable snapshot differs from it in permissions at most. -/
theorem IsReadable.eq_of_read (readable : snapshot.IsReadable)
    (isRead : Json.read snapshot.document.write = .ok read) (decoded : decoder read = .ok given) :
    given = { snapshot with permissions := given.permissions } := by
  rcases exists_members_of_read isRead with ⟨members, gives, rfl⟩
  exact readable.eq_of_members gives decoded

/-- What is decoded from the text of a readable snapshot is the snapshot exactly if its text keeps its
document. -/
theorem IsReadable.eq_iff_of_read (readable : snapshot.IsReadable)
    (isRead : Json.read snapshot.document.write = .ok read) (decoded : decoder read = .ok given) :
    given = snapshot ↔ snapshot.document.IsKeptByText := by
  rw [← Json.read_write_eq_ok_iff]
  constructor
  · intro same
    rw [same] at decoded
    rcases exists_members_of_read isRead with ⟨members, gives, rfl⟩
    rw [isRead, readable.eq_fields_of_members gives decoded]
    rfl
  · intro kept
    cases isRead.symm.trans kept
    exact Except.ok.inj (decoded.symm.trans readable.decoder_document)

end Snapshot

end AccessControl
