import AccessControl.Event

/-!
# Resolution

A user holds the roles named in the user's record, the default role, and the roles of the user's
groups.  The permissions of these roles are folded into one grant for every key that they cover.
What a snapshot does not hold contributes nothing.
-/

namespace AccessControl.Resolution

/-- The names of the groups of a user that the snapshot holds, with the groups. -/
def knownGroups (snapshot : Snapshot) (user : User) : List Group :=
  user.groups.filterMap fun name => snapshot.groups[name.text]?

/-- The names of the roles that a user holds. -/
def effectiveRoles (snapshot : Snapshot) (user : User) (defaultRole : Option String) :
    Bag String :=
  .ofList (user.roles.map Shortname.text ++ defaultRole.toList ++
    (knownGroups snapshot user).flatMap fun group => group.roles.map Shortname.text)

/-- The roles that a user holds and the snapshot knows, by name. -/
def heldRoles (snapshot : Snapshot) (user : User) (defaultRole : Option String) : List Role :=
  (effectiveRoles snapshot user defaultRole).toList.filterMap fun name => snapshot.roles[name]?

/-- The permissions that a user holds and the snapshot knows, role by role. -/
def heldPermissions (snapshot : Snapshot) (user : User) (defaultRole : Option String) :
    List Permission :=
  (heldRoles snapshot user defaultRole).flatMap fun role =>
    role.permissions.filterMap fun name => snapshot.permissions[name.text]?

/-- The keys that a permission covers for a user, with repetitions. -/
def scopes (permission : Permission) (user : String) : List PermissionKey :=
  permission.subpaths.toList.flatMap fun (space, subpaths) =>
    subpaths.flatMap fun subpath =>
      permission.types.toList.map fun type => ⟨space, Subpath.resolve subpath user, type⟩

/-- Folds a permission into the grants at all keys that it covers for a user. -/
def contribute (user : String) (grants : Grants) (permission : Permission) : Grants :=
  (scopes permission user).foldl (fun grants key => grants.absorb key permission) grants

/-- All that a user may do. -/
def grants (snapshot : Snapshot) (user : User) (defaultRole : Option String) : Grants :=
  (heldPermissions snapshot user defaultRole).foldl (contribute user.shortname.text) ∅

/-- What is missing from the snapshot on the way: first groups, then permissions of roles. -/
def warnings (snapshot : Snapshot) (user : User) (defaultRole : Option String) : List Event :=
  (user.groups.filterMap fun name =>
    if snapshot.groups.contains name.text then none else some (.unknownGroup user.shortname name)) ++
  (heldRoles snapshot user defaultRole).flatMap fun role =>
    role.permissions.filterMap fun name =>
      if snapshot.permissions.contains name.text then none
      else some (.unknownPermission role.shortname name)

end AccessControl.Resolution
