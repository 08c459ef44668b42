import Std.Data.ExtTreeMap
import Std.Data.ExtTreeSet

/-!
# Orders

Maps and sets are kept in ascending order of their keys and are equal when they hold the same
things.  The keys of this library are ordered by reading off a part that determines them, or by
several parts one after the other; these lemmas say that such an order tells different keys apart.
-/

namespace AccessControl

/-- A map in ascending order of its keys, equal to another exactly if their look-ups agree. -/
abbrev Dict (κ : Type) (α : Type) [Ord κ] := Std.ExtTreeMap κ α

/-- A set in ascending order, equal to another exactly if it has the same members. -/
abbrev Bag (α : Type) [Ord α] := Std.ExtTreeSet α

/-- An order by a part that determines the whole tells different things apart. -/
theorem lawfulEqCmp_compareOn {α β : Type} [Ord β] [Std.LawfulEqOrd β] (part : α → β)
    (determines : ∀ a b, part a = part b → a = b) : Std.LawfulEqCmp (compareOn part) where
  compare_self {a} := @Std.ReflCmp.compare_self β compare _ (part a)
  eq_of_compare {a b} h := determines a b (Std.LawfulEqCmp.eq_of_compare h)

/-- An order by two parts tells apart what at least one of them tells apart. -/
theorem compareLex_eq_eq {α : Type} {first second : α → α → Ordering} {a b : α}
    (h : compareLex first second a b = .eq) : first a b = .eq ∧ second a b = .eq := by
  simpa [compareLex, Ordering.then_eq_eq] using h

end AccessControl
