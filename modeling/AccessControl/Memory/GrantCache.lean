import AccessControl.Grant

/-!
# Grants cached in memory

Resolved grants by snapshot revision and user.  There is no clock here: grants do not run out by
themselves, but any of them may be taken out at any time.
-/

namespace AccessControl

/-- Whose grants are cached, and under which snapshot. -/
structure CacheKey where
  revision : Uuid
  user : String
  deriving DecidableEq, Repr

namespace CacheKey

/-- Keys are ordered by revision and then by user. -/
def order : CacheKey → CacheKey → Ordering :=
  compareLex (compareOn revision) (compareOn user)

instance : Std.TransCmp order := inferInstanceAs (Std.TransCmp (compareLex _ _))

instance : Ord CacheKey := ⟨order⟩

instance : Std.TransOrd CacheKey := inferInstanceAs (Std.TransCmp order)

instance : Std.LawfulEqOrd CacheKey where
  compare_self {key} := @Std.ReflCmp.compare_self _ order _ _
  eq_of_compare {a b} h := by
    obtain ⟨revision, user⟩ := compareLex_eq_eq h
    obtain ⟨r, u⟩ := a
    obtain ⟨r', u'⟩ := b
    simp only [compareOn, Std.LawfulEqCmp.compare_eq_iff_eq] at revision user
    simp [revision, user]

end CacheKey

/-- Cached grants. -/
abbrev GrantCache := Dict CacheKey Grants

namespace GrantCache

/-- The cached grants of a user under a revision. -/
def get (cache : GrantCache) (revision : Uuid) (user : String) : Option Grants :=
  cache[(⟨revision, user⟩ : CacheKey)]?

/-- Caches grants, unless they are to last for no time at all. -/
def put (cache : GrantCache) (revision : Uuid) (user : String) (grants : Grants)
    (seconds : Nat) : GrantCache :=
  if seconds = 0 then cache else cache.insert ⟨revision, user⟩ grants

/-- What is left of a cache when grants have run out, but for those whose keys pass a test. -/
def left (cache : GrantCache) (isLeft : CacheKey → Bool) : GrantCache :=
  cache.filter fun key _ => isLeft key

end GrantCache

end AccessControl
