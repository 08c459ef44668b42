import AccessControl.Json.Decode
import AccessControl.Subpath

/-!
# Permission keys

A key is the scope of a grant: a space, a subpath and a resource type, written with colons between
them.  Either of the first two may be a marker that stands for every space or every subpath.
-/

namespace AccessControl

/-- The scope of a grant. -/
structure PermissionKey where
  space : String
  subpath : String
  type : ResourceType
  deriving DecidableEq, Repr

namespace PermissionKey

/-- Keys are ordered by space, then by subpath, then by type in the order of declaration. -/
def order : PermissionKey → PermissionKey → Ordering :=
  compareLex (compareOn space) (compareLex (compareOn subpath) (compareOn type))

instance : Std.TransCmp order :=
  inferInstanceAs (Std.TransCmp (compareLex _ (compareLex _ _)))

instance : Ord PermissionKey := ⟨order⟩

instance : Std.TransOrd PermissionKey := inferInstanceAs (Std.TransCmp order)

instance : Std.LawfulEqOrd PermissionKey where
  compare_self {key} := @Std.ReflCmp.compare_self _ order _ _
  eq_of_compare {a b} h := by
    obtain ⟨space, rest⟩ := compareLex_eq_eq h
    obtain ⟨subpath, type⟩ := compareLex_eq_eq rest
    obtain ⟨s, p, t⟩ := a
    obtain ⟨s', p', t'⟩ := b
    simp only [compareOn, Std.LawfulEqCmp.compare_eq_iff_eq] at space subpath type
    simp [space, subpath, type]

/-- The written form. -/
def text (key : PermissionKey) : String :=
  Text.join ':' [key.space, key.subpath, key.type.name]

/-- The key with the given written form, or why there is none. -/
def parse (value : String) : Except Invalid PermissionKey :=
  match Text.split ':' value with
  | [space, subpath, type] => return ⟨space, subpath, ← Vocabulary.parse type⟩
  | _ => .error (.keySegments value)

/-- Reads a key from a document. -/
def decoder : Decoder PermissionKey := Decoder.parsed parse .refused

/-- Whether the key applies to every space. -/
def coversAllSpaces (key : PermissionKey) : Bool := key.space = allSpaces

/-- Whether the subpath holds the marker for every subpath. -/
def isWide (key : PermissionKey) : Bool := Subpath.isWide key.subpath

/-- Whether the marker for every subpath stands among other segments. -/
def isNestedWide (key : PermissionKey) : Bool :=
  key.isWide && key.subpath != Subpath.everywhere

/-- The key with its markers replaced by a space and a subpath.  A marker among other segments
stays, because entries carry tokens under that very subpath. -/
def concretize (key : PermissionKey) (space subpath : String) : PermissionKey where
  space := if key.coversAllSpaces then space else key.space
  subpath := if key.subpath = Subpath.everywhere then Subpath.normalize subpath else key.subpath
  type := key.type

end PermissionKey

end AccessControl
