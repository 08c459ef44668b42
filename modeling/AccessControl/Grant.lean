import AccessControl.Attributes
import AccessControl.Json.Reader
import AccessControl.Json.Writer
import AccessControl.Permission

/-!
# Grants

All permissions of a user that share a key are folded into one grant.  Actions and values add up;
conditions and restrictions add up as well, so where permissions overlap the stricter requirement
holds.  A request passes a grant if its action is granted, the resource satisfies the conditions,
and the payload respects the restrictions, which are looked at in this order.
-/

namespace AccessControl

/-- What a user may do under one key. -/
structure Grant where
  actions : Bag Action
  conditions : Bag Condition
  restrictedFields : List String
  allowedValues : Dict String AllowedValues

/-- A part of an access decision. -/
inductive AccessCheck where
  /-- The action is granted. -/
  | action
  /-- The resource satisfies the conditions. -/
  | condition
  /-- The payload respects the restrictions. -/
  | restriction
  deriving DecidableEq, Repr

/-- The name of the check in diagnostics. -/
def AccessCheck.label : AccessCheck → String
  | .action => "action"
  | .condition => "condition"
  | .restriction => "restriction"

namespace Grant

/-- The grant of nothing. -/
def empty : Grant := ⟨∅, ∅, [], ∅⟩

/-- The fields with one more at the end, unless it is there already. -/
def addField (fields : List String) (field : String) : List String :=
  if field ∈ fields then fields else fields ++ [field]

/-- Adds allowed values for one attribute to those that are there for it already. -/
def addValues (allowed : Dict String AllowedValues) (field : String) (values : AllowedValues) :
    Dict String AllowedValues :=
  allowed.alter field fun
    | none => some values
    | some present => some (present.merge values)

/-- The grant with a permission folded in. -/
def absorb (grant : Grant) (permission : Permission) : Grant where
  actions := grant.actions ∪ permission.actions
  conditions := grant.conditions ∪ permission.conditions
  restrictedFields := permission.restrictedFields.foldl addField grant.restrictedFields
  allowedValues := permission.allowedValues.foldl addValues grant.allowedValues

/-- Whether the action is granted. -/
def allowsAction (grant : Grant) (action : Action) : Bool := grant.actions.contains action

/-- Whether the achieved conditions are enough.  Creates and queries are not judged by them. -/
def conditionsMet (grant : Grant) (action : Action) (achieved : Bag Condition) : Bool :=
  action.skipsConditions || grant.conditions.all achieved.contains

/-- Whether flattened attributes touch a restricted field or something below one. -/
def touchesRestricted (grant : Grant) (flat : Dict String Json) : Bool :=
  grant.restrictedFields.any fun field => flat.keys.any (Attributes.isSameOrBelow · field)

/-- Whether every constrained attribute that the flattened attributes carry has an allowed value. -/
def valuesAllowed (grant : Grant) (flat : Dict String Json) : Bool :=
  grant.allowedValues.all fun field allowed =>
    match flat[field]? with
    | some value => allowed.permits value
    | none => true

/-- Whether a payload respects the restrictions.  Only the payload of a create or an update is
looked at. -/
def restrictionsMet (grant : Grant) (action : Action) (attributes : Attributes.Members) : Bool :=
  let flat := Attributes.flatten attributes
  !action.checksFields || !grant.touchesRestricted flat && grant.valuesAllowed flat

/-- Runs the checks in order; the first one that fails is the error. -/
def evaluate (grant : Grant) (action : Action) (achieved : Bag Condition)
    (attributes : Attributes.Members) : Except AccessCheck Unit :=
  if !grant.allowsAction action then .error .action
  else if !grant.conditionsMet action achieved then .error .condition
  else if !grant.restrictionsMet action attributes then .error .restriction
  else .ok ()

/-- Reads a grant. -/
def decoder : Decoder Grant :=
  Fields.decoder "ResolvedPermission" (mk <$> .required "allowed_actions" (.bag .word)
    <*> .required "conditions" (.bag .word)
    <*> .required "restricted_fields" (.list .text)
    <*> .required "allowed_fields_values" (.dict .ok AllowedValues.decoder))

/-- The document of a grant. -/
def toJson (grant : Grant) : Json :=
  .obj [
    ("allowed_actions", .ofWords grant.actions),
    ("conditions", .ofWords grant.conditions),
    ("restricted_fields", .ofTexts grant.restrictedFields),
    ("allowed_fields_values", .ofDict AllowedValues.toJson grant.allowedValues)]

/-- How the text of a grant is read. -/
def shape : Json.Shape :=
  .record "ResolvedPermission" [
    ("allowed_actions", .list (.word (Vocabulary.names Action))),
    ("conditions", .list (.word (Vocabulary.names Condition))),
    ("restricted_fields", .list .text),
    ("allowed_fields_values", .dict (fun _ => none) (.checked fun document =>
      match AllowedValues.decoder document with
      | .ok _ => none
      | .error cause => some cause))]

end Grant

/-- All that a user may do, by key. -/
abbrev Grants := Dict PermissionKey Grant

namespace Grants

/-- Folds a permission into the grant at a key. -/
def absorb (grants : Grants) (key : PermissionKey) (permission : Permission) : Grants :=
  grants.alter key fun present => some ((present.getD .empty).absorb permission)

/-- A key from its written form, as a name in a document. -/
def readKey (name : String) : Except DecodeError PermissionKey :=
  match PermissionKey.parse name with
  | .ok key => .ok key
  | .error cause => .error (.refused cause)

/-- Reads grants. -/
def decoder : Decoder Grants := Decoder.dict readKey Grant.decoder

/-- The document of grants, in the order of their keys. -/
def toJson (grants : Grants) : Json :=
  .obj (grants.toList.map fun (key, grant) => (key.text, grant.toJson))

/-- The text of grants. -/
def text (grants : Grants) : String := grants.toJson.write

/-- How the text of grants is read. -/
def shape : Json.Shape :=
  .dict (fun name =>
    match readKey name with
    | .ok _ => none
    | .error cause => some cause) Grant.shape

/-- The grants with the given text.  What the shape lets through the decoder accepts. -/
def ofText (text : String) : Except Json.ReadError Grants :=
  match Json.readAs shape text with
  | .error fault => .error fault
  | .ok document =>
    match decoder document with
    | .ok grants => .ok grants
    | .error cause => .error ⟨.content cause, 1, 0⟩

end Grants

end AccessControl
