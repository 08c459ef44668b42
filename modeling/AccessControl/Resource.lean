import AccessControl.Invalid
import AccessControl.Ordered

/-!
# Vocabularies

The closed sets of words that permissions are written in: resource types, actions and conditions.
Each word has one spelling, sets of words are listed in the order of declaration, and a text that
is no word of its vocabulary is refused.
-/

namespace AccessControl

/-- A finite vocabulary: its words in the order of declaration and the spelling of each. -/
class Vocabulary (α : Type) where
  all : List α
  name : α → String
  /-- Why a text that spells no word is refused. -/
  unknown : String → Invalid

namespace Vocabulary

variable {α : Type} [Vocabulary α]

/-- The word with the given spelling. -/
def ofName? (value : String) : Option α :=
  (all : List α).find? fun word => name word == value

/-- The word with the given spelling, or the refusal. -/
def parse (value : String) : Except Invalid α :=
  match ofName? value with
  | some word => .ok word
  | none => .error (unknown α value)

/-- Every spelling, in the order of declaration. -/
def names (α : Type) [Vocabulary α] : List String :=
  (all : List α).map name

end Vocabulary

/-- The types of the resources stored under a space. -/
inductive ResourceType where
  | user | group | folder | schema | content | acl | comment | media | locator | relationship
  | alteration | history | space | branch | permission | role | ticket | json | lock
  | pluginWrapper | notification
  deriving DecidableEq, Repr, Inhabited

namespace ResourceType

/-- Every resource type, in the order of declaration. -/
def all : List ResourceType :=
  [.user, .group, .folder, .schema, .content, .acl, .comment, .media, .locator, .relationship,
   .alteration, .history, .space, .branch, .permission, .role, .ticket, .json, .lock,
   .pluginWrapper, .notification]

/-- The spelling in keys, tokens and documents. -/
def name : ResourceType → String
  | .user => "user"
  | .group => "group"
  | .folder => "folder"
  | .schema => "schema"
  | .content => "content"
  | .acl => "acl"
  | .comment => "comment"
  | .media => "media"
  | .locator => "locator"
  | .relationship => "relationship"
  | .alteration => "alteration"
  | .history => "history"
  | .space => "space"
  | .branch => "branch"
  | .permission => "permission"
  | .role => "role"
  | .ticket => "ticket"
  | .json => "json"
  | .lock => "lock"
  | .pluginWrapper => "plugin_wrapper"
  | .notification => "notification"

instance : Vocabulary ResourceType := ⟨all, name, .unknownResourceType⟩

/-- Where the management space holds users. -/
def usersSubpath : String := "users"

/-- Where the management space holds groups. -/
def groupsSubpath : String := "groups"

/-- Where the management space holds roles. -/
def rolesSubpath : String := "roles"

/-- Where the management space holds permissions. -/
def permissionsSubpath : String := "permissions"

/-- The subpath of the management space that holds the entries of this type, for the types that
live there. -/
def managementSubpath? : ResourceType → Option String
  | .user => some usersSubpath
  | .group => some groupsSubpath
  | .role => some rolesSubpath
  | .permission => some permissionsSubpath
  | _ => none

instance : Ord ResourceType := ⟨compareOn ResourceType.ctorIdx⟩

instance : Std.TransOrd ResourceType := inferInstanceAs (Std.TransCmp (compareOn ResourceType.ctorIdx))

instance : Std.LawfulEqOrd ResourceType :=
  lawfulEqCmp_compareOn ResourceType.ctorIdx (by intro a b h; cases a <;> cases b <;> first | rfl | exact absurd h (by decide))

theorem mem_all (type : ResourceType) : type ∈ all := by
  cases type <;> decide

/-- Different types are spelled differently. -/
theorem name_injective {a b : ResourceType} (h : a.name = b.name) : a = b := by
  have distinct : ∀ a ∈ all, ∀ b ∈ all, a.name = b.name → a = b := by decide
  exact distinct a (mem_all a) b (mem_all b) h

end ResourceType

/-- The verbs that a permission can grant. -/
inductive Action where
  | query | view | create | update | delete | attach | move | lock | unlock | progressTicket
  | assign
  deriving DecidableEq, Repr, Inhabited

namespace Action

/-- Every action, in the order of declaration. -/
def all : List Action :=
  [.query, .view, .create, .update, .delete, .attach, .move, .lock, .unlock, .progressTicket,
   .assign]

/-- The spelling in documents. -/
def name : Action → String
  | .query => "query"
  | .view => "view"
  | .create => "create"
  | .update => "update"
  | .delete => "delete"
  | .attach => "attach"
  | .move => "move"
  | .lock => "lock"
  | .unlock => "unlock"
  | .progressTicket => "progress_ticket"
  | .assign => "assign"

instance : Vocabulary Action := ⟨all, name, .unknownAction⟩

/-- Whether the conditions of a permission are passed over for this action: a create is judged by
its payload, and a query is narrowed by filters instead. -/
def skipsConditions (action : Action) : Bool :=
  action = .create || action = .query

/-- Whether the action carries a payload whose fields are restricted. -/
def checksFields (action : Action) : Bool :=
  action = .create || action = .update

instance : Ord Action := ⟨compareOn Action.ctorIdx⟩

instance : Std.TransOrd Action := inferInstanceAs (Std.TransCmp (compareOn Action.ctorIdx))

instance : Std.LawfulEqOrd Action :=
  lawfulEqCmp_compareOn Action.ctorIdx (by intro a b h; cases a <;> cases b <;> first | rfl | exact absurd h (by decide))

theorem mem_all (action : Action) : action ∈ all := by
  cases action <;> decide

/-- Different actions are spelled differently. -/
theorem name_injective {a b : Action} (h : a.name = b.name) : a = b := by
  have distinct : ∀ a ∈ all, ∀ b ∈ all, a.name = b.name → a = b := by decide
  exact distinct a (mem_all a) b (mem_all b) h

end Action

/-- What a resource must satisfy for a conditional permission to apply. -/
inductive Condition where
  /-- The resource is active. -/
  | isActive
  /-- The resource belongs to the user or to one of the user's groups. -/
  | own
  deriving DecidableEq, Repr, Inhabited

namespace Condition

/-- Both conditions, in the order of declaration. -/
def all : List Condition := [.isActive, .own]

/-- The spelling in documents. -/
def name : Condition → String
  | .isActive => "is_active"
  | .own => "own"

instance : Vocabulary Condition := ⟨all, name, .unknownCondition⟩

instance : Ord Condition := ⟨compareOn Condition.ctorIdx⟩

instance : Std.TransOrd Condition := inferInstanceAs (Std.TransCmp (compareOn Condition.ctorIdx))

instance : Std.LawfulEqOrd Condition :=
  lawfulEqCmp_compareOn Condition.ctorIdx (by intro a b h; cases a <;> cases b <;> first | rfl | exact absurd h (by decide))

theorem mem_all (condition : Condition) : condition ∈ all := by
  cases condition <;> decide

/-- Different conditions are spelled differently. -/
theorem name_injective {a b : Condition} (h : a.name = b.name) : a = b := by
  cases a <;> cases b <;> simp_all [name]

end Condition

end AccessControl
