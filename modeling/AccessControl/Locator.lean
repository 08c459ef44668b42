import AccessControl.Json.Basic
import AccessControl.PermissionKey

/-!
# Locators

The address of a stored entry: a space, a subpath in it, a name and a type.  Addresses are ordered
by these parts, the type by its spelling, so that the entries of a space come by subpath and then
by name.
-/

namespace AccessControl

/-- The address of an entry. -/
structure Locator where
  space : String
  subpath : String
  shortname : String
  type : ResourceType
  deriving DecidableEq, Repr

namespace Locator

/-- Addresses are ordered by space, subpath, name and the spelling of the type. -/
def order : Locator → Locator → Ordering :=
  compareLex (compareOn space) (compareLex (compareOn subpath)
    (compareLex (compareOn shortname) (compareOn fun locator => locator.type.name)))

instance : Std.TransCmp order :=
  inferInstanceAs (Std.TransCmp (compareLex _ (compareLex _ (compareLex _ _))))

instance : Ord Locator := ⟨order⟩

instance : Std.TransOrd Locator := inferInstanceAs (Std.TransCmp order)

instance : Std.LawfulEqOrd Locator where
  compare_self {locator} := @Std.ReflCmp.compare_self _ order _ _
  eq_of_compare {a b} h := by
    obtain ⟨space, rest⟩ := compareLex_eq_eq h
    obtain ⟨subpath, rest⟩ := compareLex_eq_eq rest
    obtain ⟨shortname, type⟩ := compareLex_eq_eq rest
    obtain ⟨s, p, n, t⟩ := a
    obtain ⟨s', p', n', t'⟩ := b
    simp only [compareOn, Std.LawfulEqCmp.compare_eq_iff_eq] at space subpath shortname type
    simp [space, subpath, shortname, ResourceType.name_injective type]

/-- The address with its subpath in normal form. -/
def normalize (locator : Locator) : Locator :=
  { locator with subpath := Subpath.normalize locator.subpath }

end Locator

/-- An entry as a listing of stored entries gives it, not yet decoded. -/
structure ListedEntry where
  shortname : String
  document : Json

end AccessControl
