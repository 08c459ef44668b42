import AccessControl.Proofs.Grants.Merging
import AccessControl.Proofs.Resolution.Merge

/-!
# Records written differently

Records may list roles, groups and permissions in another order, list them more than once, or give
them other names throughout.  The permissions that contribute to a key are the same then, but for
their names, and so are the judgements on every request, unless allowed values of two shapes clash at
the key.
-/

namespace AccessControl

/-- A permission under another name. -/
def Permission.named (name : Shortname) (permission : Permission) : Permission :=
  { permission with shortname := name }

/-- Whether a list of names is another one after a renaming, in any order and with any repetitions. -/
def SameNames (rename : String → String) (names others : List Shortname) : Prop :=
  ∀ text, text ∈ others.map Shortname.text ↔ text ∈ names.map (rename ·.text)

theorem SameNames.exists_mem {rename : String → String} {names others : List Shortname}
    {name : Shortname} (same : SameNames rename names others) (member : name ∈ names) :
    ∃ other ∈ others, other.text = rename name.text :=
  List.mem_map.mp ((same _).mpr (List.mem_map_of_mem member))

theorem SameNames.exists_mem_of_mem {rename : String → String} {names others : List Shortname}
    {other : Shortname} (same : SameNames rename names others) (member : other ∈ others) :
    ∃ name ∈ names, rename name.text = other.text :=
  List.mem_map.mp ((same _).mp (List.mem_map_of_mem member))

/-- The name of an absorbed permission leaves no trace. -/
theorem Grant.foldl_absorb_map_named {name : Shortname} {permissions : List Permission}
    {grant : Grant} :
    (permissions.map (Permission.named name)).foldl absorb grant = permissions.foldl absorb grant :=
  List.foldl_map

namespace Resolution

/-- New names for groups, roles and permissions. -/
structure Renaming where
  groups : String → String
  roles : String → String
  permissions : String → String

/-- Whether the records of a user and a snapshot say the same as others under new names: every list
holds the new names in any order and with any repetitions, and every new name stands for a record if
the old one does. -/
structure Recasts (anew : Renaming) (snapshot other : Snapshot) (user twin : User)
    (defaultRole otherDefault : Option String) : Prop where
  asker : twin.shortname = user.shortname
  memberships : SameNames anew.groups user.groups twin.groups
  direct : SameNames anew.roles user.roles twin.roles
  byDefault : otherDefault = defaultRole.map anew.roles
  groups : ∀ name, Option.Rel
    (fun group twinGroup => SameNames anew.roles group.roles twinGroup.roles)
    snapshot.groups[name]? other.groups[anew.groups name]?
  roles : ∀ name, Option.Rel
    (fun role twinRole => SameNames anew.permissions role.permissions twinRole.permissions)
    snapshot.roles[name]? other.roles[anew.roles name]?
  permissions : ∀ name, Option.Rel
    (fun permission twinPermission => twinPermission = permission.named twinPermission.shortname)
    snapshot.permissions[name]? other.permissions[anew.permissions name]?

theorem exists_of_rel_left {α : Type} {related : α → α → Prop} {first second : Option α} {value : α}
    (rel : Option.Rel related first second) (found : first = some value) :
    ∃ other, second = some other ∧ related value other := by
  cases rel with
  | none => cases found
  | some holds => exact ⟨_, rfl, Option.some.inj found ▸ holds⟩

theorem exists_of_rel_right {α : Type} {related : α → α → Prop} {first second : Option α} {other : α}
    (rel : Option.Rel related first second) (found : second = some other) :
    ∃ value, first = some value ∧ related value other := by
  cases rel with
  | none => cases found
  | some holds => exact ⟨_, rfl, Option.some.inj found ▸ holds⟩

namespace Recasts

variable {anew : Renaming} {snapshot other : Snapshot} {user twin : User}
  {defaultRole otherDefault : Option String} {key : PermissionKey} {permission : Permission}
  (recasts : Recasts anew snapshot other user twin defaultRole otherDefault)
include recasts

/-- A role is held under its new name. -/
theorem holdsRole {role : String} (holds : HoldsRole snapshot user defaultRole role) :
    HoldsRole other twin otherDefault (anew.roles role) := by
  cases holds with
  | direct named =>
      obtain ⟨name, isNamed, isNew⟩ := recasts.direct.exists_mem named
      exact isNew ▸ .direct isNamed
  | byDefault isDefault =>
      refine .byDefault ?_
      rw [recasts.byDefault, isDefault, Option.map_some]
  | throughGroup isMember known bundled =>
      obtain ⟨member, isTwinMember, isNew⟩ := recasts.memberships.exists_mem isMember
      obtain ⟨group, twinKnown, sameRoles⟩ := exists_of_rel_left (recasts.groups _) known
      obtain ⟨name, twinBundled, isNewRole⟩ := sameRoles.exists_mem bundled
      rw [← isNew] at twinKnown
      exact isNewRole ▸ .throughGroup isTwinMember twinKnown twinBundled

/-- Every role that is held under the new names has an old name that it is held under. -/
theorem exists_holdsRole {role : String} (holds : HoldsRole other twin otherDefault role) :
    ∃ old, HoldsRole snapshot user defaultRole old ∧ anew.roles old = role := by
  cases holds with
  | direct named =>
      obtain ⟨name, isNamed, isNew⟩ := recasts.direct.exists_mem_of_mem named
      exact ⟨_, .direct isNamed, isNew⟩
  | byDefault isDefault =>
      rw [recasts.byDefault, Option.map_eq_some_iff] at isDefault
      obtain ⟨old, isOld, isNew⟩ := isDefault
      exact ⟨old, .byDefault isOld, isNew⟩
  | throughGroup isMember known bundled =>
      obtain ⟨member, isOldMember, isNew⟩ := recasts.memberships.exists_mem_of_mem isMember
      rw [← isNew] at known
      obtain ⟨group, oldKnown, sameRoles⟩ := exists_of_rel_right (recasts.groups _) known
      obtain ⟨name, oldBundled, isNewRole⟩ := sameRoles.exists_mem_of_mem bundled
      exact ⟨_, .throughGroup isOldMember oldKnown oldBundled, isNewRole⟩

/-- A permission that contributes to a key does so under its new name. -/
theorem gives (given : Gives snapshot user defaultRole key permission) :
    ∃ name, Gives other twin otherDefault key (permission.named name) := by
  obtain ⟨⟨holdsRole, knownRole, bundled, known⟩, contributes⟩ := given
  obtain ⟨role, twinKnownRole, samePermissions⟩ := exists_of_rel_left (recasts.roles _) knownRole
  obtain ⟨name, twinBundled, isNew⟩ := samePermissions.exists_mem bundled
  obtain ⟨twinPermission, twinKnown, isNamed⟩ := exists_of_rel_left (recasts.permissions _) known
  rw [← isNew] at twinKnown
  refine ⟨twinPermission.shortname, ?_, ?_⟩
  · exact isNamed ▸ .through (recasts.holdsRole holdsRole) twinKnownRole twinBundled twinKnown
  · rw [recasts.asker]
    exact ⟨contributes.subpath, contributes.type⟩

/-- Every permission that contributes to a key under the new names does so under an old name. -/
theorem exists_gives {twinPermission : Permission}
    (given : Gives other twin otherDefault key twinPermission) :
    ∃ permission, Gives snapshot user defaultRole key permission ∧
      twinPermission = permission.named twinPermission.shortname := by
  obtain ⟨⟨holdsRole, knownRole, bundled, known⟩, contributes⟩ := given
  obtain ⟨old, oldHolds, rfl⟩ := recasts.exists_holdsRole holdsRole
  obtain ⟨role, oldKnownRole, samePermissions⟩ := exists_of_rel_right (recasts.roles _) knownRole
  obtain ⟨name, oldBundled, isNew⟩ := samePermissions.exists_mem_of_mem bundled
  rw [← isNew] at known
  obtain ⟨permission, oldKnown, isNamed⟩ := exists_of_rel_right (recasts.permissions _) known
  refine ⟨permission, ⟨.through oldHolds oldKnownRole oldBundled oldKnown, ?_⟩, isNamed⟩
  rw [isNamed, recasts.asker] at contributes
  exact ⟨contributes.subpath, contributes.type⟩

/-- There are grants under the same keys. -/
theorem mem_grants_iff :
    key ∈ grants snapshot user defaultRole ↔ key ∈ grants other twin otherDefault := by
  rw [Resolution.mem_grants_iff, Resolution.mem_grants_iff]
  constructor
  · rintro ⟨permission, given⟩
    obtain ⟨name, givenTwin⟩ := recasts.gives given
    exact ⟨_, givenTwin⟩
  · rintro ⟨twinPermission, given⟩
    obtain ⟨permission, givenOld, -⟩ := recasts.exists_gives given
    exact ⟨permission, givenOld⟩

/-- The grants under one key judge alike, unless the shapes of the values that contributing
permissions allow for an attribute of the payload clash. -/
theorem agreeUnless {grant twinGrant : Grant}
    (held : (grants snapshot user defaultRole)[key]? = some grant)
    (twinHeld : (grants other twin otherDefault)[key]? = some twinGrant) (action : Action)
    (achieved : Bag Condition) (attributes : Attributes.Members) :
    AgreeUnless
      (∃ field ∈ Attributes.flatten attributes, Clashes (Gives snapshot user defaultRole key) field)
      (grant.evaluate action achieved attributes)
      (twinGrant.evaluate action achieved attributes) := by
  obtain ⟨permissions, -, given, rfl⟩ := exists_contributions held
  obtain ⟨twins, -, twinGiven, rfl⟩ := exists_contributions twinHeld
  -- Under one name for all of them, the same permissions were folded.
  have same : ∀ permission,
      permission ∈ permissions.map (Permission.named user.shortname) ↔
        permission ∈ twins.map (Permission.named user.shortname) := by
    intro permission
    simp only [List.mem_map, given, twinGiven]
    constructor
    · rintro ⟨old, ⟨holds, contributes⟩, rfl⟩
      obtain ⟨name, twinHolds, twinContributes⟩ := recasts.gives ⟨holds, contributes⟩
      exact ⟨_, ⟨twinHolds, twinContributes⟩, rfl⟩
    · rintro ⟨new, ⟨holds, contributes⟩, rfl⟩
      obtain ⟨old, ⟨oldHolds, oldContributes⟩, isNamed⟩ := recasts.exists_gives ⟨holds, contributes⟩
      exact ⟨old, ⟨oldHolds, oldContributes⟩, by rw [isNamed]; rfl⟩
  have agree := Grant.agreeUnless_foldl_absorb same action achieved attributes
  rw [Grant.foldl_absorb_map_named, Grant.foldl_absorb_map_named] at agree
  refine agree.mono fun clash => ?_
  obtain ⟨field, carried, ⟨_, sets, isListing, lists⟩, ⟨_, values, isNaming, names⟩⟩ := clash
  obtain ⟨listing, isContributor, rfl⟩ := List.mem_map.mp isListing
  obtain ⟨naming, isAlsoContributor, rfl⟩ := List.mem_map.mp isNaming
  obtain ⟨holds, contributes⟩ := (given listing).mp isContributor
  obtain ⟨alsoHolds, alsoContributes⟩ := (given naming).mp isAlsoContributor
  exact ⟨field, carried, ⟨listing, sets, ⟨holds, contributes⟩, lists⟩,
    ⟨naming, values, ⟨alsoHolds, alsoContributes⟩, names⟩⟩

end Recasts

/-- The order and the repetitions of permissions matter to their grant only where the shapes of the
values that they allow for an attribute of the payload clash, and then only to whether the restrictions
are met.  So it is under every key for all that a user holds, whatever the order, the repetitions and
the names of roles, groups and permissions. -/
theorem order_matters_only_where_shapes_clash :
    (∀ permissions others : List Permission,
      (∀ permission, permission ∈ permissions ↔ permission ∈ others) →
      ∀ (action : Action) (achieved : Bag Condition) (attributes : Attributes.Members),
        AgreeUnless (∃ field ∈ Attributes.flatten attributes, Clashes (· ∈ permissions) field)
          ((permissions.foldl Grant.absorb .empty).evaluate action achieved attributes)
          ((others.foldl Grant.absorb .empty).evaluate action achieved attributes)) ∧
    (∀ (anew : Renaming) (snapshot other : Snapshot) (user twin : User)
        (defaultRole otherDefault : Option String),
      Recasts anew snapshot other user twin defaultRole otherDefault →
      ∀ key,
        (key ∈ grants snapshot user defaultRole ↔ key ∈ grants other twin otherDefault) ∧
        ∀ grant twinGrant,
          (grants snapshot user defaultRole)[key]? = some grant →
          (grants other twin otherDefault)[key]? = some twinGrant →
          ∀ (action : Action) (achieved : Bag Condition) (attributes : Attributes.Members),
            AgreeUnless
              (∃ field ∈ Attributes.flatten attributes,
                Clashes (Gives snapshot user defaultRole key) field)
              (grant.evaluate action achieved attributes)
              (twinGrant.evaluate action achieved attributes)) := by
  constructor
  · intro permissions others same action achieved attributes
    exact Grant.agreeUnless_foldl_absorb same action achieved attributes
  · intro anew snapshot other user twin defaultRole otherDefault recasts key
    refine ⟨recasts.mem_grants_iff, fun grant twinGrant held twinHeld => ?_⟩
    exact recasts.agreeUnless held twinHeld

/-! ## Two desks -/

namespace Desks

def art : Shortname := ⟨"art", by decide⟩

def copy : Shortname := ⟨"copy", by decide⟩

def layout : Shortname := ⟨"layout", by decide⟩

/-- Leave to give a news item a status. -/
def marking (name : Shortname) (values : AllowedValues) : Permission where
  shortname := name
  isActive := true
  subpaths := Std.ExtTreeMap.ofList [("acme", ["news"])]
  types := Std.ExtTreeSet.ofList [ResourceType.content]
  actions := Std.ExtTreeSet.ofList [Action.update]
  conditions := ∅
  restrictedFields := []
  allowedValues := Std.ExtTreeMap.ofList [("status", values)]

/-- Leave to mark an item as a draft. -/
def single : Permission := marking ⟨"single", by decide⟩ (.scalars [.str "draft"])

/-- Leave to give an item no status but a list of them. -/
def several : Permission := marking ⟨"several", by decide⟩ (.lists [[.str "draft"]])

/-- A snapshot where one of two roles bundles each permission, and the first is called as wanted. -/
def snapshot (first : Shortname) : Snapshot :=
  { Snapshot.empty with
    roles := (∅ : Dict String Role)
      |>.insert copy.text ⟨copy, true, [several.shortname]⟩
      |>.insert first.text ⟨first, true, [single.shortname]⟩
    permissions := Std.ExtTreeMap.ofList [("single", single), ("several", several)] }

theorem getElem?_roles_snapshot {first : Shortname} {name : String} :
    (snapshot first).roles[name]? =
      if first.text = name then some ⟨first, true, [single.shortname]⟩
      else if copy.text = name then some ⟨copy, true, [several.shortname]⟩ else none := by
  simp [snapshot, Std.ExtTreeMap.getElem?_insert, Std.LawfulEqCmp.compare_eq_iff_eq]

/-- A user with these roles. -/
def user (roles : List Shortname) : User := ⟨⟨"nina", by decide⟩, true, roles, []⟩

/-- Art and layout are called each by the other's name. -/
def swapped : Renaming where
  groups := id
  roles := fun name =>
    if name = art.text then layout.text else if name = layout.text then art.text else name
  permissions := id

theorem recasts : Recasts swapped (snapshot art) (snapshot layout) (user [art, copy])
    (user [copy, layout, copy]) none none where
  asker := rfl
  memberships := by simp [SameNames, user]
  direct := by simp [SameNames, user, swapped, art, copy, layout, or_comm]
  byDefault := rfl
  groups name := by simp [snapshot, Snapshot.empty]
  roles name := by
    simp only [getElem?_roles_snapshot, swapped]
    by_cases isArt : name = art.text
    · simp [isArt, SameNames, art, layout]
    · by_cases isLayout : name = layout.text
      · simp [isLayout, SameNames, art, copy, layout]
      · by_cases isCopy : copy.text = name <;> simp_all [SameNames, eq_comm]
  permissions name := by
    change Option.Rel _ (snapshot art).permissions[name]? (snapshot art).permissions[name]?
    cases (snapshot art).permissions[name]? with
    | none => exact .none
    | some permission => exact .some rfl

end Desks

/-- Called otherwise the roles are folded in another order, and an item that could be marked as a draft
no longer can: the permissions allow values of two shapes. -/
theorem order_matters_only_where_shapes_clash_desks :
    ∃ grant twinGrant,
      (grants (Desks.snapshot Desks.art) (Desks.user [Desks.art, Desks.copy]) none)[
        (⟨"acme", "news", .content⟩ : PermissionKey)]? = some grant ∧
      (grants (Desks.snapshot Desks.layout)
        (Desks.user [Desks.copy, Desks.layout, Desks.copy]) none)[
        (⟨"acme", "news", .content⟩ : PermissionKey)]? = some twinGrant ∧
      grant.evaluate .update ∅ [("status", .str "draft")] = .ok () ∧
      twinGrant.evaluate .update ∅ [("status", .str "draft")] = .error .restriction ∧
      ∃ field ∈ Attributes.flatten [("status", .str "draft")],
        Clashes (Gives (Desks.snapshot Desks.art) (Desks.user [Desks.art, Desks.copy]) none
          ⟨"acme", "news", .content⟩) field := by
  have passes : (grants (Desks.snapshot Desks.art) (Desks.user [Desks.art, Desks.copy]) none)[
      (⟨"acme", "news", .content⟩ : PermissionKey)]?.map
        (·.evaluate .update ∅ [("status", .str "draft")]) = some (.ok ()) := by
    decide +kernel
  have fails : (grants (Desks.snapshot Desks.layout)
      (Desks.user [Desks.copy, Desks.layout, Desks.copy]) none)[
      (⟨"acme", "news", .content⟩ : PermissionKey)]?.map
        (·.evaluate .update ∅ [("status", .str "draft")]) = some (.error .restriction) := by
    decide +kernel
  obtain ⟨grant, held, passes⟩ := Option.map_eq_some_iff.mp passes
  obtain ⟨twinGrant, twinHeld, fails⟩ := Option.map_eq_some_iff.mp fails
  refine ⟨grant, twinGrant, held, twinHeld, passes, fails, ?_⟩
  obtain ⟨-, agree⟩ := order_matters_only_where_shapes_clash
  obtain ⟨-, agree⟩ := agree _ _ _ _ _ _ _ Desks.recasts ⟨"acme", "news", .content⟩
  rcases agree grant twinGrant held twinHeld .update ∅ [("status", .str "draft")] with same | differ
  · rw [passes, fails] at same
    cases same
  · exact differ.1

end Resolution

end AccessControl
