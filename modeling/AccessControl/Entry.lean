import AccessControl.Permission
import AccessControl.PolicyToken

/-!
# Users and entries

What access control reads of the records of users and of stored entries.  An entry may carry
grants of its own, and it determines the policy tokens it is stamped with.
-/

namespace AccessControl

/-- A user. -/
structure User where
  shortname : Shortname
  isActive : Bool
  roles : List Shortname
  groups : List Shortname
  deriving DecidableEq

namespace User

/-- Whether the user belongs to the group of this name. -/
def isMemberOf (user : User) (group : String) : Bool :=
  user.groups.any fun name => name.text = group

/-- Reads a user. -/
def decoder : Decoder User :=
  Fields.decoder "User" (mk <$> .required "shortname" .shortname
    <*> .withDefault "is_active" .bool false
    <*> .withDefault "roles" (.list .shortname) []
    <*> .withDefault "groups" (.list .shortname) [])

/-- The document of a user. -/
def toJson (user : User) : Json :=
  .obj [
    ("shortname", .str user.shortname.text),
    ("is_active", .bool user.isActive),
    ("roles", .ofNames user.roles),
    ("groups", .ofNames user.groups)]

end User

/-- Actions that an entry grants to one user by itself. -/
structure AclItem where
  user : Shortname
  actions : Bag Action
  deriving DecidableEq

namespace AclItem

/-- Reads a grant of an entry. -/
def decoder : Decoder AclItem :=
  Fields.decoder "AclEntry" (mk <$> .required "user_shortname" .shortname
    <*> .withDefault "allowed_actions" (.bag .word) ∅)

/-- The document of a grant of an entry. -/
def toJson (item : AclItem) : Json :=
  .obj [
    ("user_shortname", .str item.user.text),
    ("allowed_actions", .ofWords item.actions)]

end AclItem

/-- What access control reads of a stored entry. -/
structure Entry where
  uuid : Option Uuid
  shortname : Shortname
  type : ResourceType
  isActive : Bool
  owner : Shortname
  ownerGroup : Option Shortname
  acl : List AclItem
  deriving DecidableEq

namespace Entry

/-- Reads an entry. -/
def decoder : Decoder Entry :=
  Fields.decoder "EntryMeta" (mk <$> .withDefault "uuid" (.optional .uuid) none
    <*> .required "shortname" .shortname
    <*> .required "resource_type" .word
    <*> .withDefault "is_active" .bool false
    <*> .required "owner_shortname" .shortname
    <*> .withDefault "owner_group_shortname" (.optional .shortname) none
    <*> .withDefault "acl" (.list AclItem.decoder) [])

/-- The document of an entry. -/
def toJson (entry : Entry) : Json :=
  .obj [
    ("uuid", entry.uuid.elim .null fun uuid => .str uuid.text),
    ("shortname", .str entry.shortname.text),
    ("resource_type", .str entry.type.name),
    ("is_active", .bool entry.isActive),
    ("owner_shortname", .str entry.owner.text),
    ("owner_group_shortname", entry.ownerGroup.elim .null fun group => .str group.text),
    ("acl", .arr (entry.acl.map AclItem.toJson))]

/-- Whether the entry itself grants the action to the user. -/
def aclGrants (entry : Entry) (user : String) (action : Action) : Bool :=
  entry.acl.any fun item => item.user.text = user && item.actions.contains action

/-- Where the entry stands when it is stored at a subpath of a space, and whose it is. -/
def placement (entry : Entry) (space subpath : String) : Placement where
  space := space
  subpath := subpath
  type := entry.type
  isActive := entry.isActive
  owner := entry.owner.text
  ownerGroup := entry.ownerGroup.map Shortname.text
  name := some entry.shortname.text

/-- The policies that the entry is stamped with when it is stored at a subpath of a space. -/
def policies (entry : Entry) (space subpath : String) : List String :=
  (entry.placement space subpath).policies

end Entry

end AccessControl
