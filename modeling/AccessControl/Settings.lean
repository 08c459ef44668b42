import AccessControl.Invalid
import AccessControl.Text.Blank

/-!
# Settings

What a deployment can choose: where users, groups, roles and permissions are kept, which role every
user holds, whether denials are explained, how long resolved permissions are cached, and how
filters that ask for ownership only are written.
-/

namespace AccessControl

/-- How the two filters that ask for ownership in either activity are written. -/
inductive FilterFormat where
  /-- As two filters. -/
  | separate
  /-- As one filter with a bar between the alternatives. -/
  | alternation
  deriving DecidableEq, Repr, Inhabited

namespace FilterFormat

/-- The name of the format. -/
def name : FilterFormat → String
  | .separate => "separate"
  | .alternation => "alternation"

/-- The format with the given name; blanks around it and the case of its letters do not count. -/
def parse (value : String) : Except Invalid FilterFormat :=
  match Text.lowerAscii (Text.trim value) with
  | "separate" => .ok .separate
  | "alternation" => .ok .alternation
  | other => .error (.unknownFormat other)

end FilterFormat

/-- The settings of a node. -/
structure Settings where
  /-- The space that holds users, groups, roles and permissions. -/
  managementSpace : String := "management"
  /-- The role that every known user holds. -/
  defaultRole : Option String := some "logged_in"
  /-- Whether every failed check and every denial is reported. -/
  debugDenials : Bool := false
  /-- For how many seconds resolved permissions are cached; zero stands for no cache. -/
  cacheSeconds : Nat := 300
  filterFormat : FilterFormat := .separate
  deriving DecidableEq, Repr, Inhabited

end AccessControl
