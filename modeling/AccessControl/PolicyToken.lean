import AccessControl.PermissionKey

/-!
# Policy tokens

An entry is stamped with tokens when it is stored, and a query carries tokens as filters.  A token
is a permission key with the activity of an entry and the subject that owns it.  A filter admits an
entry when it admits one of the entry's tokens.
-/

namespace AccessControl

/-- The activity that a token speaks of. -/
inductive ActiveState where
  | active
  | inactive
  /-- Either activity, and any owner. -/
  | any
  deriving DecidableEq, Repr

namespace ActiveState

/-- The state of an entry with the given activity flag. -/
def ofFlag (isActive : Bool) : ActiveState := if isActive then active else inactive

/-- The written form. -/
def text : ActiveState → String
  | .active => "true"
  | .inactive => "false"
  | .any => "*"

/-- The state with the given written form. -/
def ofText? : String → Option ActiveState
  | "true" => some .active
  | "false" => some .inactive
  | "*" => some .any
  | _ => none

end ActiveState

/-- The owner that a token speaks of. -/
inductive OwnerScope where
  /-- The token is open to anyone. -/
  | unscoped
  /-- Any owner. -/
  | any
  /-- A user or a group. -/
  | subject (name : String)
  deriving DecidableEq, Repr

namespace OwnerScope

/-- The owner segment of a token, if it has one. -/
def segment? : OwnerScope → Option String
  | .unscoped => none
  | .any => some "*"
  | .subject name => some name

/-- The scope that an owner segment, or its absence, stands for. -/
def ofSegment? : Option String → OwnerScope
  | none => .unscoped
  | some "*" => .any
  | some name => .subject name

/-- Whether a filter with this scope admits a token with that one. -/
def admits : OwnerScope → OwnerScope → Bool
  | .any, .subject _ => true
  | .subject a, .subject b => a = b
  | .unscoped, .unscoped => true
  | _, _ => false

end OwnerScope

/-- A token of an entry, or of a filter. -/
structure PolicyToken where
  key : PermissionKey
  active : ActiveState
  owner : OwnerScope
  deriving DecidableEq, Repr

namespace PolicyToken

/-- The token that is open to every activity and owner under a key. -/
def unrestricted (key : PermissionKey) : PolicyToken := ⟨key, .any, .unscoped⟩

/-- The written form: four segments, or five with an owner. -/
def text (token : PolicyToken) : String :=
  Text.join ':' ([token.key.space, token.key.subpath, token.key.type.name, token.active.text] ++
    token.owner.segment?.toList)

/-- The token made of the given segments of `value`.  The activity is looked at before the type. -/
def ofSegments (value space subpath type active : String) (owner : Option String) :
    Except Invalid PolicyToken :=
  match ActiveState.ofText? active with
  | none => .error (.tokenState value active)
  | some state =>
    return ⟨⟨space, subpath, ← Vocabulary.parse type⟩, state, OwnerScope.ofSegment? owner⟩

/-- The token with the given written form, or why there is none. -/
def parse (value : String) : Except Invalid PolicyToken :=
  match Text.split ':' value with
  | [space, subpath, type, active] => ofSegments value space subpath type active none
  | [space, subpath, type, active, owner] => ofSegments value space subpath type active (some owner)
  | _ => .error (.tokenSegments value)

/-- Whether the token, as a filter, admits an entry that carries `stored`. -/
def admits (filter stored : PolicyToken) : Bool :=
  filter.key = stored.key &&
    (filter.active = .any || filter.active = stored.active && filter.owner.admits stored.owner)

end PolicyToken

/-- Where an entry stands and whose it is: what its tokens are made from. -/
structure Placement where
  space : String
  subpath : String
  type : ResourceType
  isActive : Bool
  owner : String
  ownerGroup : Option String
  name : Option String
  deriving DecidableEq, Repr

namespace Placement

/-- The tokens at one prefix of the entry's place: one for the owner, one for the owning group or
open to anyone if there is no group, and one under the widened prefix if there is such. -/
def tokensAt (entry : Placement) (path : String) : List PolicyToken :=
  let state := ActiveState.ofFlag entry.isActive
  let key : PermissionKey := ⟨entry.space, path, entry.type⟩
  [⟨key, state, .subject entry.owner⟩,
    ⟨key, state, (entry.ownerGroup.map .subject).getD .unscoped⟩] ++
  (Subpath.wildcard? path).toList.map fun wide =>
    ⟨⟨entry.space, wide, entry.type⟩, state, .unscoped⟩

/-- The tokens of an entry, prefix by prefix from the root down. -/
def tokens (entry : Placement) : List PolicyToken :=
  (Subpath.walk entry.subpath entry.type entry.name).flatMap entry.tokensAt

/-- The written tokens of an entry. -/
def policies (entry : Placement) : List String := entry.tokens.map PolicyToken.text

end Placement

/-- The tokens among written policies; a malformed one is passed over. -/
def readPolicies (policies : List String) : List PolicyToken :=
  policies.filterMap fun policy => (PolicyToken.parse policy).toOption

/-- The alternatives of filters, which may be joined by bars. -/
def filterAlternatives (filters : List String) : List String :=
  filters.flatMap (Text.split '|')

/-- Whether an alternative of some filter admits some stored policy. -/
def policiesMatch (filters stored : List String) : Bool :=
  let tokens := readPolicies stored
  (readPolicies (filterAlternatives filters)).any fun filter => tokens.any filter.admits

end AccessControl
