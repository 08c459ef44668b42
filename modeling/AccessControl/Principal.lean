import AccessControl.Program
import AccessControl.Resolution
import AccessControl.Settings

/-!
# Principals

Whoever asks is looked up and the grants are taken from the cache, or resolved from the current
snapshot and then cached.  Cached grants belong to a revision, so grants of an older snapshot are
never found under a newer one.  A user who is not known has no grants.
-/

namespace AccessControl

/-- Whoever asks: the record, if the user is known, and the grants. -/
structure Principal where
  user : Option User
  grants : Grants

namespace Principal

/-- A user who is not known. -/
def unknown : Principal := ⟨none, ∅⟩

/-- The names of the user's groups. -/
def groups (principal : Principal) : List Shortname :=
  principal.user.elim [] User.groups

/-- Where the record of a user is kept. -/
def locator (settings : Settings) (user : String) : Locator :=
  ⟨settings.managementSpace, ResourceType.usersSubpath, user, .user⟩

/-- The grants of a known user under a snapshot, without the cache. -/
def resolve (settings : Settings) (snapshot : Snapshot) (user : User) : Operation Grants := do
  Operation.notes (Resolution.warnings snapshot user settings.defaultRole)
  return Resolution.grants snapshot user settings.defaultRole

/-- The grants of a known user under a snapshot, by way of the cache. -/
def cached (settings : Settings) (snapshot : Snapshot) (name : String) (user : User) :
    Operation Grants := do
  match ← Operation.call (.cacheGet snapshot.revision name) with
  | some grants => return grants
  | none =>
    let grants ← resolve settings snapshot user
    Operation.call (.cachePut snapshot.revision name grants settings.cacheSeconds)
    return grants

/-- Looks a user up. -/
def load (settings : Settings) (name : String) : Operation Principal := do
  let snapshot ← Operation.current
  match ← Operation.call (.findUser (locator settings name)) with
  | none => return unknown
  | some user =>
    let grants ←
      if settings.cacheSeconds = 0 then resolve settings snapshot user
      else cached settings snapshot name user
    return ⟨some user, grants⟩

end Principal

/-- All that a user may do. -/
def userGrants (settings : Settings) (name : String) : Operation Grants := do
  return (← Principal.load settings name).grants

end AccessControl
