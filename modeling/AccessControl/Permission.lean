import AccessControl.AllowedValues
import AccessControl.PermissionKey

/-!
# Permissions, roles and groups

A permission grants actions on resources of some types at places in spaces, under conditions and
with restrictions on what may be written.  A role is a bundle of permissions, a group one of roles.
The three are kept as entries of the management space and count only while they are active.
-/

namespace AccessControl

namespace Json

/-- The document of a sequence of names. -/
def ofNames (names : List Shortname) : Json := .arr (names.map fun name => .str name.text)

/-- The document of a set of words. -/
def ofWords {α : Type} [Vocabulary α] [Ord α] [Std.TransOrd α] (words : Bag α) : Json :=
  .arr (words.toList.map fun word => .str (Vocabulary.name word))

/-- The document of a sequence of texts. -/
def ofTexts (texts : List String) : Json := .arr (texts.map .str)

/-- The document of a map with text keys. -/
def ofDict {α : Type} (encode : α → Json) (dict : Dict String α) : Json :=
  .obj (dict.toList.map fun (name, value) => (name, encode value))

end Json

/-- A bundle of capabilities that roles can hold. -/
structure Permission where
  shortname : Shortname
  isActive : Bool
  /-- For each space the subpaths that the permission applies to. -/
  subpaths : Dict String (List String)
  types : Bag ResourceType
  actions : Bag Action
  /-- What a resource must satisfy. -/
  conditions : Bag Condition
  /-- The attributes that may not be written. -/
  restrictedFields : List String
  /-- The values that attributes can be given. -/
  allowedValues : Dict String AllowedValues

namespace Permission

/-- The fields of a permission's document. -/
def fields : Fields Permission :=
  mk <$> .required "shortname" .shortname
    <*> .withDefault "is_active" .bool false
    <*> .required "subpaths" (.dict .ok (.list .text))
    <*> .required "resource_types" (.bag .word)
    <*> .required "actions" (.bag .word)
    <*> .withDefault "conditions" (.bag .word) ∅
    <*> .withDefault "restricted_fields" (.list .text) []
    <*> .withDefault "allowed_fields_values" (.dict .ok AllowedValues.decoder) ∅

/-- Reads a permission. -/
def decoder : Decoder Permission := fields.decoder "Permission"

/-- The document of a permission. -/
def toJson (permission : Permission) : Json :=
  .obj [
    ("shortname", .str permission.shortname.text),
    ("is_active", .bool permission.isActive),
    ("subpaths", .ofDict .ofTexts permission.subpaths),
    ("resource_types", .ofWords permission.types),
    ("actions", .ofWords permission.actions),
    ("conditions", .ofWords permission.conditions),
    ("restricted_fields", .ofTexts permission.restrictedFields),
    ("allowed_fields_values", .ofDict AllowedValues.toJson permission.allowedValues)]

end Permission

/-- A bundle of permissions. -/
structure Role where
  shortname : Shortname
  isActive : Bool
  permissions : List Shortname
  deriving DecidableEq

namespace Role

/-- Reads a role. -/
def decoder : Decoder Role :=
  Fields.decoder "Role" (mk <$> .required "shortname" .shortname
    <*> .withDefault "is_active" .bool false
    <*> .withDefault "permissions" (.list .shortname) [])

/-- The document of a role. -/
def toJson (role : Role) : Json :=
  .obj [
    ("shortname", .str role.shortname.text),
    ("is_active", .bool role.isActive),
    ("permissions", .ofNames role.permissions)]

end Role

/-- A bundle of roles.  Who belongs to it is kept with the users. -/
structure Group where
  shortname : Shortname
  isActive : Bool
  roles : List Shortname
  deriving DecidableEq

namespace Group

/-- Reads a group. -/
def decoder : Decoder Group :=
  Fields.decoder "Group" (mk <$> .required "shortname" .shortname
    <*> .withDefault "is_active" .bool false
    <*> .withDefault "roles" (.list .shortname) [])

/-- The document of a group. -/
def toJson (group : Group) : Json :=
  .obj [
    ("shortname", .str group.shortname.text),
    ("is_active", .bool group.isActive),
    ("roles", .ofNames group.roles)]

end Group

end AccessControl
