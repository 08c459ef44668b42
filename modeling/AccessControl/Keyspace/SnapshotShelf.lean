import AccessControl.Event
import AccessControl.Json.Writer
import AccessControl.Keyspace.Attempt

/-!
# Published documents kept in a keyspace

A published document is a hash with its name, its generation and its text.  The permissions in it
are written once more, one hash for each, so that a search index over hashes finds them by name;
the set of their names tells which of these hashes to remove when the next document comes.
-/

namespace AccessControl.Keyspace

/-- Where a published document is kept. -/
def snapshotKey (keyPrefix name : String) : String := s!"{keyPrefix}:snapshots:{name}"

/-- What the keys of all permissions start with. -/
def permissionKeyPrefix (keyPrefix : String) : String := s!"{keyPrefix}:permissions:"

/-- Where the names of the published permissions are kept. -/
def permissionNamesKey (keyPrefix : String) : String := s!"{keyPrefix}:permission_names"

/-- The name of the search index over the published permissions. -/
def permissionIndexName (keyPrefix : String) : String := s!"{keyPrefix}:permissions_idx"

/-- The permissions in a document, by name, with their texts. -/
def permissionDocuments (document : Json) : List (String × String) :=
  match document.member? "permissions" with
  | some (.obj members) => members.map fun (name, permission) => (name, permission.write)
  | _ => []

/-- The description of the search index. -/
def indexDescription (keyPrefix : String) : List String :=
  ["ON", "HASH", "PREFIX", "1", permissionKeyPrefix keyPrefix, "SCHEMA", "name", "TAG"]

/-- Makes the search index.  That there is one already is no fault, and neither is a server that
cannot search, which is only told of. -/
def prepareIndex (isUp : Bool) (keyPrefix : String) (keyspace : Keyspace) :
    (Except ServiceError Unit × List Event) × Keyspace :=
  let step := createIndex (permissionIndexName keyPrefix) (indexDescription keyPrefix)
  match attempt isUp .createIndex step keyspace with
  | (.error (.unavailable (.keyspace .createIndex (.reply error))), keyspace) =>
    if Text.contains error.message "Index already exists" then ((.ok (), []), keyspace)
    else if Text.contains (Text.lowerAscii error.message) "unknown command" then
      ((.ok (), [.indexSkipped (.reply error)]), keyspace)
    else
      ((.error (.unavailable (.keyspace .createIndex (.reply error))), []), keyspace)
  | (result, keyspace) => ((result, []), keyspace)

/-- Publishes a document under a name. -/
def persist (isUp : Bool) (keyPrefix name : String) (document : Json) (keyspace : Keyspace) :
    Except ServiceError Unit × Keyspace :=
  let generation := ((document.member? "generation").bind Json.natural?).getD 0
  let permissions := (permissionDocuments document).flatMap fun (name, text) => [name, text]
  let step : Step Unit := do
    let _ ← invoke .persistSnapshot [snapshotKey keyPrefix name, permissionNamesKey keyPrefix]
      ([name, toString generation, document.write, permissionKeyPrefix keyPrefix] ++ permissions)
  attempt isUp (.persistSnapshot name) step keyspace

/-- The document published under a name. -/
def fetch (isUp : Bool) (keyPrefix name : String) (keyspace : Keyspace) :
    Except ServiceError (Option Json) × Keyspace :=
  match attempt isUp (.readSnapshot name) (getField (snapshotKey keyPrefix name) "document")
      keyspace with
  | (.error error, keyspace) => (.error error, keyspace)
  | (.ok none, keyspace) => (.ok none, keyspace)
  | (.ok (some text), keyspace) =>
    match Json.read text with
    | .ok document => (.ok (some document), keyspace)
    | .error fault => (.error (.unreadableSnapshotText name fault), keyspace)

end AccessControl.Keyspace
