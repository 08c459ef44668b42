import AccessControl.Keyspace.Basic

/-!
# Scripts of a keyspace

A script is run by the server as a whole, on keys and arguments, and uses commands of the server.
An error reply of one of them ends the script; what was done before stays done.  The server runs
only scripts it was given, so a client that is told it does not know one gives it the script and
tries again.
-/

namespace AccessControl.Keyspace

/-- Arguments taken two by two. -/
def pairs : List String → List (String × String)
  | first :: second :: rest => (first, second) :: pairs rest
  | _ => []

/-- Deletes a hash for each name. -/
def deleteEach (keyPrefix : String) : List String → Step Unit
  | [] => return ()
  | name :: rest => do
    let _ ← delete [keyPrefix ++ name]
    deleteEach keyPrefix rest

/-- Writes a hash for each permission and registers its name. -/
def writeEach (keyPrefix namesKey : String) : List (String × String) → Step Unit
  | [] => return ()
  | (name, document) :: rest => do
    let _ ← putFields (keyPrefix ++ name) [("name", name), ("document", document)]
    let _ ← addMembers namesKey [name]
    writeEach keyPrefix namesKey rest

/-- Replaces a published snapshot: its hash, the hash of every permission, and the set of their
names.  Hashes of permissions in the former set go. -/
def replaceSnapshot (snapshotKey namesKey name generation document keyPrefix : String)
    (permissions : List (String × String)) : Step Nat := do
  let _ ← putFields snapshotKey
    [("name", name), ("generation", generation), ("document", document)]
  deleteEach keyPrefix (← members namesKey)
  let _ ← delete [namesKey]
  writeEach keyPrefix namesKey permissions
  return permissions.length

/-- Stores a text for some seconds and registers its key in an index that lives as long. -/
def putIndexed (key index value seconds : String) : Step Nat := do
  set key value (some seconds)
  let _ ← addMembers index [key]
  let _ ← expire index seconds
  return 1

/-- How many keys are deleted at a time. -/
def deleteBatch : Nat := 500

/-- Deletes keys in batches. -/
def deleteBatches (keys : List String) : Step Unit :=
  match keys with
  | [] => return ()
  | key :: rest => do
    let _ ← delete ((key :: rest).take deleteBatch)
    deleteBatches ((key :: rest).drop deleteBatch)
termination_by keys.length
decreasing_by simp only [deleteBatch, List.length_drop, List.length_cons]; omega

/-- Deletes all keys that an index holds, and the index. -/
def clearIndexed (index : String) : Step Nat := do
  let keys ← members index
  deleteBatches keys
  let _ ← delete [index]
  return keys.length

/-- What a script does with its keys and arguments. -/
def Script.body : Script → (keys arguments : List String) → Step Nat
  | .persistSnapshot, [snapshotKey, namesKey],
    name :: generation :: document :: keyPrefix :: permissions =>
    replaceSnapshot snapshotKey namesKey name generation document keyPrefix (pairs permissions)
  | .putGrants, [key, index], [value, seconds] => putIndexed key index value seconds
  | .clearGrants, [index], [] => clearIndexed index
  | _, _, _ => throw ⟨"ERR", some "Error running script"⟩

/-- Gives the server a script. -/
def loadScript (script : Script) : Step Unit := do
  permit "SCRIPT"
  modify fun keyspace => { keyspace with scripts := script :: keyspace.scripts }

/-- Runs a script that the server was given. -/
def runScript (script : Script) (keys arguments : List String) : Step Nat := do
  permit "EVALSHA"
  if script ∈ (← get).scripts then script.body keys arguments
  else throw noScript

/-- Runs a script, which is given to the server if it says that it does not know it. -/
def invoke (script : Script) (keys arguments : List String) : Step Nat :=
  tryCatch (runScript script keys arguments) fun error => do
    if error.code = noScript.code then
      loadScript script
      runScript script keys arguments
    else throw error

/-- Carries out a command. -/
def perform : Command → Step Reply
  | .set key value expiry => do
    set key value expiry
    return .text "OK"
  | .get key => do return (← getText key).elim .nothing .text
  | .delete keys => do return .integer (← delete keys)
  | .expire key seconds => do return .integer (if ← expire key seconds then 1 else 0)
  | .putFields key fields => do return .integer (← putFields key fields)
  | .getField key field => do return (← getField key field).elim .nothing .text
  | .addMembers key new => do return .integer (← addMembers key new)
  | .members key => do return .texts (← members key)
  | .createIndex name description => do
    createIndex name description
    return .text "OK"
  | .loadScript script => do
    loadScript script
    return .text "OK"
  | .runScript script keys arguments => do return .integer (← runScript script keys arguments)

/-- The command that words spell, as far as commands can be spelled: scripts have no words. -/
def Command.ofWords? : List String → Option Command
  | ["SET", key, value] => some (.set key value none)
  | ["SET", key, value, "EX", seconds] => some (.set key value (some seconds))
  | ["GET", key] => some (.get key)
  | "DEL" :: key :: keys => some (.delete (key :: keys))
  | ["EXPIRE", key, seconds] => some (.expire key seconds)
  | "HSET" :: key :: field :: value :: more =>
    if more.length % 2 = 0 then some (.putFields key ((field, value) :: pairs more)) else none
  | ["HGET", key, field] => some (.getField key field)
  | "SADD" :: key :: member :: more => some (.addMembers key (member :: more))
  | ["SMEMBERS", key] => some (.members key)
  | "FT.CREATE" :: name :: description => some (.createIndex name description)
  | _ => none

/-- Carries out the command that words spell. -/
def performWords (words : List String) : Step Reply :=
  match Command.ofWords? words with
  | some command => perform command
  | none => throw ⟨"ERR", some ("unknown command '" ++ words.headD "" ++ "'")⟩

end AccessControl.Keyspace
