import AccessControl.Proofs.Grant
import AccessControl.Proofs.Subpath.Walk
import AccessControl.Resolution

/-!
# Where grants come from

The grant that a user has under a key is folded from the permissions that the user holds and that
contribute to the key.  Both notions are stated here on their own, and every held grant is traced
back to such permissions, of which there is at least one.
-/

namespace AccessControl

namespace Resolution

variable {snapshot : Snapshot} {user : User} {defaultRole : Option String}

/-! ## Held permissions -/

/-- A user holds the roles of the user's record, the default role, and the roles of the user's groups
that the snapshot knows. -/
inductive HoldsRole (snapshot : Snapshot) (user : User) (defaultRole : Option String) :
    String → Prop where
  | direct {name : Shortname} (named : name ∈ user.roles) :
      HoldsRole snapshot user defaultRole name.text
  | byDefault {role : String} (isDefault : defaultRole = some role) :
      HoldsRole snapshot user defaultRole role
  | throughGroup {member name : Shortname} {group : Group} (isMember : member ∈ user.groups)
      (known : snapshot.groups[member.text]? = some group) (bundled : name ∈ group.roles) :
      HoldsRole snapshot user defaultRole name.text

/-- A user holds a permission through a role that is held and known. -/
inductive Holds (snapshot : Snapshot) (user : User) (defaultRole : Option String)
    (permission : Permission) : Prop where
  | through {roleName : String} {role : Role} {name : Shortname}
      (holdsRole : HoldsRole snapshot user defaultRole roleName)
      (knownRole : snapshot.roles[roleName]? = some role) (bundled : name ∈ role.permissions)
      (known : snapshot.permissions[name.text]? = some permission)

theorem mem_effectiveRoles {role : String} :
    role ∈ effectiveRoles snapshot user defaultRole ↔ HoldsRole snapshot user defaultRole role := by
  simp only [effectiveRoles, knownGroups, Std.ExtTreeSet.mem_ofList, List.contains_iff_mem,
    List.mem_append, List.mem_map, Option.mem_toList, List.mem_flatMap,
    List.mem_filterMap]
  constructor
  · rintro ((⟨name, named, rfl⟩ | isDefault) | ⟨group, ⟨member, isMember, known⟩, name, bundled, rfl⟩)
    · exact .direct named
    · exact .byDefault isDefault
    · exact .throughGroup isMember known bundled
  · intro holds
    cases holds with
    | direct named => exact .inl (.inl ⟨_, named, rfl⟩)
    | byDefault isDefault => exact .inl (.inr isDefault)
    | throughGroup isMember known bundled =>
        exact .inr ⟨_, ⟨_, isMember, known⟩, _, bundled, rfl⟩

theorem mem_heldPermissions {permission : Permission} :
    permission ∈ heldPermissions snapshot user defaultRole ↔
      Holds snapshot user defaultRole permission := by
  simp only [heldPermissions, heldRoles, List.mem_flatMap, List.mem_filterMap,
    Std.ExtTreeSet.mem_toList, mem_effectiveRoles]
  constructor
  · rintro ⟨role, ⟨roleName, holdsRole, knownRole⟩, name, bundled, known⟩
    exact .through holdsRole knownRole bundled known
  · rintro ⟨holdsRole, knownRole, bundled, known⟩
    exact ⟨_, ⟨_, holdsRole, knownRole⟩, _, bundled, known⟩

/-! ## Contributions to a key -/

/-- A permission contributes to a key if it names the key's space and type, and a subpath that
stands for the key's subpath when the user asks. -/
structure Contributes (permission : Permission) (user : String) (key : PermissionKey) : Prop where
  subpath : ∃ subpaths, permission.subpaths[key.space]? = some subpaths ∧
    ∃ subpath ∈ subpaths, Subpath.resolve subpath user = key.subpath
  type : key.type ∈ permission.types

theorem mem_scopes {permission : Permission} {user : String} {key : PermissionKey} :
    key ∈ scopes permission user ↔ Contributes permission user key := by
  obtain ⟨space, subpath, type⟩ := key
  simp only [scopes, List.mem_flatMap, List.mem_map, Prod.exists,
    Std.ExtTreeMap.mem_toList_iff_getElem?_eq_some, Std.ExtTreeSet.mem_toList,
    PermissionKey.mk.injEq]
  constructor
  · rintro ⟨_, subpaths, found, path, isSubpath, _, isType, rfl, resolved, rfl⟩
    exact ⟨⟨subpaths, found, path, isSubpath, resolved⟩, isType⟩
  · rintro ⟨⟨subpaths, found, path, isSubpath, resolved⟩, isType⟩
    exact ⟨space, subpaths, found, path, isSubpath, type, isType, rfl, resolved, rfl⟩

/-- The permissions that are folded into the grant under a key, in order and with repetitions. -/
def contributions (user : String) (key : PermissionKey) (permissions : List Permission) :
    List Permission :=
  permissions.flatMap fun permission =>
    ((scopes permission user).filter (· = key)).map fun _ => permission

theorem mem_contributions {user : String} {key : PermissionKey} {permissions : List Permission}
    {permission : Permission} :
    permission ∈ contributions user key permissions ↔
      permission ∈ permissions ∧ Contributes permission user key := by
  simp only [contributions, List.mem_flatMap, List.mem_map, List.mem_filter, decide_eq_true_eq,
    ← mem_scopes]
  constructor
  · rintro ⟨_, isPermission, _, ⟨isScope, rfl⟩, rfl⟩
    exact ⟨isPermission, isScope⟩
  · rintro ⟨isPermission, isScope⟩
    exact ⟨permission, isPermission, key, ⟨isScope, rfl⟩, rfl⟩

/-- The grant at a key with a permission folded in, if there is one yet or not. -/
def absorbAt (present : Option Grant) (permission : Permission) : Option Grant :=
  some ((present.getD .empty).absorb permission)

theorem foldl_absorbAt (grant : Grant) (permissions : List Permission) :
    permissions.foldl absorbAt (some grant) = some (permissions.foldl Grant.absorb grant) := by
  induction permissions generalizing grant with
  | nil => rfl
  | cons first rest ih => exact ih (grant.absorb first)

theorem getElem?_absorb {grants : Grants} {key scope : PermissionKey} {permission : Permission} :
    (grants.absorb scope permission)[key]? =
      if scope = key then absorbAt grants[key]? permission else grants[key]? := by
  rw [Grants.absorb, Std.ExtTreeMap.getElem?_alter]
  by_cases same : scope = key
  · subst same
    simp [absorbAt]
  · simp [same, Std.LawfulEqCmp.compare_eq_iff_eq]

theorem getElem?_contribute {user : String} {grants : Grants} {key : PermissionKey}
    {permission : Permission} :
    (contribute user grants permission)[key]? =
      (contributions user key [permission]).foldl absorbAt grants[key]? := by
  simp only [contributions, List.flatMap_cons, List.flatMap_nil, List.append_nil, contribute]
  generalize scopes permission user = keys
  induction keys generalizing grants with
  | nil => rfl
  | cons scope rest ih =>
      rw [List.foldl_cons, ih, getElem?_absorb, List.filter_cons]
      by_cases same : scope = key <;> simp [same]

theorem getElem?_foldl_contribute {user : String} {grants : Grants} {key : PermissionKey}
    {permissions : List Permission} :
    (permissions.foldl (contribute user) grants)[key]? =
      (contributions user key permissions).foldl absorbAt grants[key]? := by
  induction permissions generalizing grants with
  | nil => rfl
  | cons first rest ih =>
      rw [List.foldl_cons, ih, getElem?_contribute, ← List.foldl_append]
      simp [contributions]

/-- Every held grant is folded from the held permissions that contribute to its key. -/
theorem exists_contributions {key : PermissionKey} {grant : Grant}
    (held : (grants snapshot user defaultRole)[key]? = some grant) :
    ∃ permissions : List Permission, permissions ≠ [] ∧
      (∀ permission, permission ∈ permissions ↔
        Holds snapshot user defaultRole permission ∧
          Contributes permission user.shortname.text key) ∧
      grant = permissions.foldl Grant.absorb .empty := by
  rw [grants, getElem?_foldl_contribute] at held
  refine ⟨_, ?_, fun permission => by rw [mem_contributions, mem_heldPermissions], ?_⟩
  · intro none
    rw [none] at held
    simp at held
  · cases shape : contributions user.shortname.text key
        (heldPermissions snapshot user defaultRole) with
    | nil => rw [shape] at held; simp at held
    | cons first rest =>
        rw [shape, List.foldl_cons] at held
        exact (Option.some.inj ((foldl_absorbAt _ _).symm.trans (by simpa [absorbAt] using held))).symm

/-- A held permission gives a grant under every key that it contributes to. -/
theorem exists_grant {permission : Permission} {key : PermissionKey}
    (holds : Holds snapshot user defaultRole permission)
    (contributes : Contributes permission user.shortname.text key) :
    ∃ grant, (grants snapshot user defaultRole)[key]? = some grant := by
  have contributed : permission ∈ contributions user.shortname.text key
      (heldPermissions snapshot user defaultRole) :=
    mem_contributions.mpr ⟨mem_heldPermissions.mpr holds, contributes⟩
  rw [grants, getElem?_foldl_contribute]
  cases shape : contributions user.shortname.text key
      (heldPermissions snapshot user defaultRole) with
  | nil =>
      rw [shape] at contributed
      cases contributed
  | cons first rest => exact ⟨_, foldl_absorbAt _ rest⟩

/-- What comes with an action in every held permission comes with it in every held grant. -/
theorem allowsAction_of_allowsAction {first second : Action} {key : PermissionKey} {grant : Grant}
    (together : ∀ permission, Holds snapshot user defaultRole permission →
      first ∈ permission.actions → second ∈ permission.actions)
    (held : (grants snapshot user defaultRole)[key]? = some grant)
    (allows : grant.allowsAction first = true) : grant.allowsAction second = true := by
  obtain ⟨permissions, -, same, rfl⟩ := exists_contributions held
  rw [Grant.allowsAction, ← Std.ExtTreeSet.mem_iff_contains, Grant.mem_actions_foldl] at allows ⊢
  rcases allows with fromNothing | ⟨permission, member, lists⟩
  · simp [Grant.empty] at fromNothing
  · exact .inr ⟨permission, member, together permission ((same permission).mp member).1 lists⟩

/-- Permissions with plain subpaths only give grants under plain subpaths. -/
theorem isPlain_of_mem_grants {key : PermissionKey}
    (plain : ∀ permission, Holds snapshot user defaultRole permission →
      ∀ (space : String) (subpaths : List String), permission.subpaths[space]? = some subpaths →
        ∀ subpath ∈ subpaths, Text.IsPlain subpath)
    (isKey : key ∈ grants snapshot user defaultRole) : Text.IsPlain key.subpath := by
  obtain ⟨grant, held⟩ := Dict.mem_iff_exists_getElem?.mp isKey
  obtain ⟨permissions, nonempty, same, -⟩ := exists_contributions held
  obtain ⟨permission, member⟩ := List.exists_mem_of_ne_nil permissions nonempty
  obtain ⟨holds, ⟨subpaths, found, subpath, isSubpath, resolved⟩, -⟩ := (same permission).mp member
  rw [← resolved]
  exact Subpath.isPlain_resolve (plain permission holds key.space subpaths found subpath isSubpath)
    user.shortname

end Resolution

end AccessControl
