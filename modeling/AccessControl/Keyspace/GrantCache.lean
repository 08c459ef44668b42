import AccessControl.Grant
import AccessControl.Keyspace.Attempt

/-!
# Grants cached in a keyspace

Resolved grants as texts, under keys made of the snapshot revision and the user.  An index set
holds the keys, so that all of them can be dropped without searching the keyspace.
-/

namespace AccessControl.Keyspace

/-- Where the grants of a user under a revision are kept. -/
def grantsKey (keyPrefix : String) (revision : Uuid) (user : String) : String :=
  "\x7b" ++ keyPrefix ++ "\x7d:users_permissions:" ++ revision.text ++ ":" ++ user

/-- Where the keys of all cached grants are registered. -/
def grantsIndexKey (keyPrefix : String) : String :=
  "\x7b" ++ keyPrefix ++ "\x7d:users_permissions_index"

/-- The cached grants of a user under a revision. -/
def getGrants (isUp : Bool) (keyPrefix : String) (revision : Uuid) (user : String)
    (keyspace : Keyspace) : Except ServiceError (Option Grants) × Keyspace :=
  match attempt isUp (.readCache user) (getText (grantsKey keyPrefix revision user)) keyspace with
  | (.error error, keyspace) => (.error error, keyspace)
  | (.ok none, keyspace) => (.ok none, keyspace)
  | (.ok (some text), keyspace) =>
    match Grants.ofText text with
    | .ok grants => (.ok (some grants), keyspace)
    | .error fault => (.error (.corruptCache user fault), keyspace)

/-- Caches grants for some seconds.  For no time at all the server is not even asked. -/
def putGrants (isUp : Bool) (keyPrefix : String) (revision : Uuid) (user : String)
    (grants : Grants) (seconds : Nat) (keyspace : Keyspace) :
    Except ServiceError Unit × Keyspace :=
  if seconds = 0 then (.ok (), keyspace)
  else
    let step : Step Unit := do
      let _ ← invoke .putGrants [grantsKey keyPrefix revision user, grantsIndexKey keyPrefix]
        [grants.text, toString seconds]
    attempt isUp (.writeCache user) step keyspace

/-- Drops all cached grants. -/
def clearGrants (isUp : Bool) (keyPrefix : String) (keyspace : Keyspace) :
    Except ServiceError Unit × Keyspace :=
  let step : Step Unit := do
    let _ ← invoke .clearGrants [grantsIndexKey keyPrefix] []
  attempt isUp .clearCache step keyspace

end AccessControl.Keyspace
