import AccessControl.Proofs.Resolution

/-!
# Grants as merged permissions

The grant under a key is the merge of all permissions that a user holds and that contribute to the
key, and there is one exactly if there is such a permission.  Names of roles, groups and permissions
that the snapshot does not know might as well not be there: taking them out of the records changes
nothing, not even the order in which permissions are folded.
-/

namespace AccessControl

namespace Resolution

variable {snapshot : Snapshot} {user : User} {defaultRole : Option String} {key : PermissionKey}
  {grant : Grant}

/-! ## What is merged -/

/-- Whether a user holds a permission that contributes to a key. -/
structure Gives (snapshot : Snapshot) (user : User) (defaultRole : Option String)
    (key : PermissionKey) (permission : Permission) : Prop where
  holds : Holds snapshot user defaultRole permission
  contributes : Contributes permission user.shortname.text key

/-- A grant that is neither less nor more than certain permissions together. -/
structure Merges (grant : Grant) (among : Permission → Prop) : Prop where
  actions : ∀ action, action ∈ grant.actions ↔
    ∃ permission, among permission ∧ action ∈ permission.actions
  conditions : ∀ condition, condition ∈ grant.conditions ↔
    ∃ permission, among permission ∧ condition ∈ permission.conditions
  distinct : grant.restrictedFields.Nodup
  restrictedFields : ∀ field, field ∈ grant.restrictedFields ↔
    ∃ permission, among permission ∧ field ∈ permission.restrictedFields
  constrained : ∀ field, field ∈ grant.allowedValues ↔
    ∃ permission, among permission ∧ field ∈ permission.allowedValues

theorem merges_foldl {permissions : List Permission} {among : Permission → Prop}
    (same : ∀ permission, permission ∈ permissions ↔ among permission) :
    Merges (permissions.foldl Grant.absorb .empty) among where
  actions action := by simp [Grant.mem_actions_foldl, same, Grant.empty]
  conditions condition := by simp [Grant.mem_conditions_foldl, same, Grant.empty]
  distinct := Grant.nodup_restrictedFields_foldl List.nodup_nil
  restrictedFields field := by simp [Grant.mem_restrictedFields_foldl, same, Grant.empty]
  constrained field := by
    simp only [Std.ExtTreeMap.mem_iff_isSome_getElem?, Grant.isSome_allowedValues_foldl]
    simp [same, Grant.empty]

theorem mem_grants_iff :
    key ∈ grants snapshot user defaultRole ↔
      ∃ permission, Gives snapshot user defaultRole key permission := by
  rw [Dict.mem_iff_exists_getElem?]
  constructor
  · rintro ⟨grant, held⟩
    obtain ⟨permissions, nonempty, same, -⟩ := exists_contributions held
    obtain ⟨permission, member⟩ := List.exists_mem_of_ne_nil permissions nonempty
    obtain ⟨holds, contributes⟩ := (same permission).mp member
    exact ⟨permission, holds, contributes⟩
  · rintro ⟨permission, holds, contributes⟩
    exact exists_grant holds contributes

theorem merges_of_held (held : (grants snapshot user defaultRole)[key]? = some grant) :
    Merges grant (Gives snapshot user defaultRole key) := by
  obtain ⟨permissions, -, same, rfl⟩ := exists_contributions held
  apply merges_foldl
  intro permission
  rw [same]
  constructor
  · rintro ⟨holds, contributes⟩
    exact ⟨holds, contributes⟩
  · rintro ⟨holds, contributes⟩
    exact ⟨holds, contributes⟩

end Resolution

/-! ## What is not known -/

/-- A role without the permissions that a snapshot does not know. -/
def Role.within (snapshot : Snapshot) (role : Role) : Role :=
  { role with
    permissions := role.permissions.filter fun name => snapshot.permissions.contains name.text }

/-- A group without the roles that a snapshot does not know. -/
def Group.within (snapshot : Snapshot) (group : Group) : Group :=
  { group with roles := group.roles.filter fun name => snapshot.roles.contains name.text }

/-- A user without the roles and groups that a snapshot does not know. -/
def User.within (snapshot : Snapshot) (user : User) : User :=
  { user with
    roles := user.roles.filter fun name => snapshot.roles.contains name.text
    groups := user.groups.filter fun name => snapshot.groups.contains name.text }

/-- A snapshot whose records name only what it knows. -/
def Snapshot.closed (snapshot : Snapshot) : Snapshot :=
  { snapshot with
    groups := snapshot.groups.map fun _ => Group.within snapshot
    roles := snapshot.roles.map fun _ => Role.within snapshot }

namespace Resolution

variable {snapshot : Snapshot} {user : User} {defaultRole : Option String} {role : String}

theorem filterMap_filter_of_isSome {α β : Type} {names : List α} {known : α → Bool}
    {find : α → Option β} (found : ∀ name, (find name).isSome = true → known name = true) :
    (names.filter known).filterMap find = names.filterMap find := by
  rw [List.filterMap_filter]
  refine List.filterMap_congr fun name _ => ?_
  split
  · rfl
  · next unknown =>
    exact (Option.not_isSome_iff_eq_none.mp fun isSome => unknown (found name isSome)).symm

theorem holdsRole_closed_iff :
    HoldsRole snapshot.closed (user.within snapshot) (defaultRole.filter snapshot.roles.contains)
        role ↔
      HoldsRole snapshot user defaultRole role ∧ role ∈ snapshot.roles := by
  constructor
  · intro holds
    cases holds with
    | direct named =>
        obtain ⟨named, known⟩ := List.mem_filter.mp named
        exact ⟨.direct named, known⟩
    | byDefault isDefault =>
        obtain ⟨isDefault, known⟩ := Option.filter_eq_some_iff.mp isDefault
        exact ⟨.byDefault isDefault, known⟩
    | throughGroup isMember found bundled =>
        rw [Snapshot.closed, Std.ExtTreeMap.getElem?_map, Option.map_eq_some_iff] at found
        obtain ⟨group, found, rfl⟩ := found
        obtain ⟨bundled, known⟩ := List.mem_filter.mp bundled
        exact ⟨.throughGroup (List.mem_filter.mp isMember).1 found bundled, known⟩
  · rintro ⟨holds, known⟩
    cases holds with
    | direct named => exact .direct (List.mem_filter.mpr ⟨named, known⟩)
    | byDefault isDefault => exact .byDefault (Option.filter_eq_some_iff.mpr ⟨isDefault, known⟩)
    | @throughGroup member name group isMember found bundled =>
        have isKnown : snapshot.groups.contains member.text = true :=
          Dict.mem_iff_exists_getElem?.mpr ⟨group, found⟩
        have foundWithin : snapshot.closed.groups[member.text]? = some (group.within snapshot) := by
          rw [Snapshot.closed, Std.ExtTreeMap.getElem?_map, found, Option.map_some]
        exact .throughGroup (List.mem_filter.mpr ⟨isMember, isKnown⟩) foundWithin
          (List.mem_filter.mpr ⟨bundled, known⟩)

theorem effectiveRoles_closed :
    effectiveRoles snapshot.closed (user.within snapshot)
        (defaultRole.filter snapshot.roles.contains) =
      (effectiveRoles snapshot user defaultRole).filter snapshot.roles.contains := by
  refine Std.ExtTreeSet.ext_mem fun role => ?_
  rw [mem_effectiveRoles, holdsRole_closed_iff, ← mem_effectiveRoles]
  simp only [← Std.ExtTreeSet.mem_toList, Std.ExtTreeSet.toList_filter, List.mem_filter,
    Std.ExtTreeMap.contains_iff_mem]

/-- The known roles are held in the same order. -/
theorem heldRoles_closed :
    heldRoles snapshot.closed (user.within snapshot) (defaultRole.filter snapshot.roles.contains) =
      (heldRoles snapshot user defaultRole).map (Role.within snapshot) := by
  have found (name : String) :
      snapshot.closed.roles[name]? = snapshot.roles[name]?.map (Role.within snapshot) :=
    Std.ExtTreeMap.getElem?_map
  simp only [heldRoles, effectiveRoles_closed, Std.ExtTreeSet.toList_filter, found]
  rw [filterMap_filter_of_isSome, List.map_filterMap]
  intro name isSome
  rw [Option.isSome_map] at isSome
  exact Std.ExtTreeMap.mem_iff_isSome_getElem?.mpr isSome

theorem heldPermissions_closed :
    heldPermissions snapshot.closed (user.within snapshot)
        (defaultRole.filter snapshot.roles.contains) =
      heldPermissions snapshot user defaultRole := by
  rw [heldPermissions, heldRoles_closed, List.flatMap_map, heldPermissions]
  apply List.flatMap_congr
  intro role _
  apply filterMap_filter_of_isSome
  intro name isSome
  exact Std.ExtTreeMap.mem_iff_isSome_getElem?.mpr isSome

/-- The grants of a user are the same without the names that the snapshot does not know. -/
theorem grants_closed :
    grants snapshot.closed (user.within snapshot) (defaultRole.filter snapshot.roles.contains) =
      grants snapshot user defaultRole := by
  rw [grants, heldPermissions_closed]
  rfl

/-- There is a grant under a key exactly if the user holds a permission that contributes to the key,
and the grant is the merge of all such permissions.  Names of roles, groups and permissions that the
snapshot does not know make no difference. -/
theorem grants_merge_held_permissions (snapshot : Snapshot) (user : User)
    (defaultRole : Option String) :
    (∀ key, key ∈ grants snapshot user defaultRole ↔
      ∃ permission, Gives snapshot user defaultRole key permission) ∧
    (∀ key grant, (grants snapshot user defaultRole)[key]? = some grant →
      Merges grant (Gives snapshot user defaultRole key)) ∧
    grants snapshot.closed (user.within snapshot) (defaultRole.filter snapshot.roles.contains) =
      grants snapshot user defaultRole :=
  ⟨fun _ => mem_grants_iff, fun _ _ => merges_of_held, grants_closed⟩

end Resolution

/-! ## An editorial office -/

namespace Resolution

namespace Editorial

/-- Leave to view the news, listed twice. -/
def perusal : Permission where
  shortname := ⟨"perusal", by decide⟩
  isActive := true
  subpaths := Std.ExtTreeMap.ofList [("acme", ["news", "/news/"])]
  types := Std.ExtTreeSet.ofList [ResourceType.content]
  actions := Std.ExtTreeSet.ofList [Action.view]
  conditions := Std.ExtTreeSet.ofList [Condition.isActive]
  restrictedFields := ["tags", "owner"]
  allowedValues := ∅

/-- Leave of an author to change them. -/
def redaction : Permission where
  shortname := ⟨"redaction", by decide⟩
  isActive := true
  subpaths := Std.ExtTreeMap.ofList [("acme", ["//news"])]
  types := Std.ExtTreeSet.ofList [ResourceType.content]
  actions := Std.ExtTreeSet.ofList [Action.update]
  conditions := Std.ExtTreeSet.ofList [Condition.own]
  restrictedFields := ["owner", "slug", "slug"]
  allowedValues := Std.ExtTreeMap.ofList [("status", AllowedValues.scalars [.str "draft"])]

/-- A role that names a permission which is not there. -/
def columnist : Role :=
  ⟨⟨"columnist", by decide⟩, true,
    [⟨"perusal", by decide⟩, ⟨"vanished", by decide⟩, ⟨"redaction", by decide⟩]⟩

def snapshot : Snapshot :=
  { Snapshot.empty with
    roles := Std.ExtTreeMap.ofList [("columnist", columnist)]
    permissions := Std.ExtTreeMap.ofList [("perusal", perusal), ("redaction", redaction)] }

/-- A user who also names a role and a group which are not there. -/
def user : User :=
  ⟨⟨"hattie", by decide⟩, true, [⟨"columnist", by decide⟩, ⟨"publisher", by decide⟩],
    [⟨"newsdesk", by decide⟩]⟩

end Editorial

/-- Both permissions are merged, and each restricted field is noted once. -/
theorem grants_merge_held_permissions_editorial :
    ∃ grant,
      (grants Editorial.snapshot Editorial.user (some "logged_in"))[
        (⟨"acme", "news", .content⟩ : PermissionKey)]? = some grant ∧
      grant.restrictedFields = ["tags", "owner", "slug"] ∧
      Merges grant (Gives Editorial.snapshot Editorial.user (some "logged_in")
        ⟨"acme", "news", .content⟩) := by
  have noted : (grants Editorial.snapshot Editorial.user (some "logged_in"))[
      (⟨"acme", "news", .content⟩ : PermissionKey)]?.map Grant.restrictedFields =
        some ["tags", "owner", "slug"] := by
    decide +kernel
  obtain ⟨grant, held, noted⟩ := Option.map_eq_some_iff.mp noted
  obtain ⟨-, merges, -⟩ :=
    grants_merge_held_permissions Editorial.snapshot Editorial.user (some "logged_in")
  exact ⟨grant, held, noted, merges _ _ held⟩

end Resolution

end AccessControl
