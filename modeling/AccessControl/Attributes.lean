import AccessControl.Json.Basic
import AccessControl.Ordered
import AccessControl.Text.Split

/-!
# Attributes

The attributes of a record are a map that may hold further maps.  Restrictions speak of dotted
paths, so the attributes are flattened: every position that holds something other than a map is
recorded under the names on the way to it, joined by dots.  An empty map leaves no trace.
-/

namespace AccessControl.Attributes

/-- The members of a map document. -/
abbrev Members := List (String × Json)

/-- The path of a member below a parent. -/
def below : (parent : Option String) → (name : String) → String
  | none, name => name
  | some parent, name => parent ++ "." ++ name

mutual

/-- The leaves at and below a path, depth first. -/
def leaves (path : String) : Json → List (String × Json)
  | .obj members => memberLeaves (some path) members
  | .null => [(path, .null)]
  | .bool b => [(path, .bool b)]
  | .int n => [(path, .int n)]
  | .float bits => [(path, .float bits)]
  | .str text => [(path, .str text)]
  | .arr items => [(path, .arr items)]

/-- The leaves below the members of a map, member by member. -/
def memberLeaves (parent : Option String) : Members → List (String × Json)
  | [] => []
  | (name, value) :: rest => leaves (below parent name) value ++ memberLeaves parent rest

end

/-- The flattened attributes.  Names may hold dots themselves; where two positions have one path
the later of them counts. -/
def flatten (attributes : Members) : Dict String Json :=
  Std.ExtTreeMap.ofList (memberLeaves none attributes)

/-- Whether a path is another one or lies below it. -/
def isSameOrBelow (path ancestor : String) : Bool :=
  path = ancestor ||
    match Text.afterChars? ancestor.toList path.toList with
    | some ('.' :: _) => true
    | _ => false

end AccessControl.Attributes
