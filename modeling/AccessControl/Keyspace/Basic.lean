import AccessControl.Ordered
import AccessControl.Outage

/-!
# Keyspaces

A keyspace server holds texts, hashes and sets under keys, and carries out commands one at a time.
A command may be switched off; every use of it is then answered with an error.  Keys can be given a
time to live, which is recorded but never runs out here.
-/

namespace AccessControl

namespace Keyspace

/-- What a key holds. -/
inductive Content where
  | text (value : String)
  | hash (fields : Dict String String)
  | set (members : Bag String)

/-- What a key holds, and the seconds it was last given to live, as they were written. -/
structure Slot where
  content : Content
  expiry : Option String := none

/-- Programs that the server can run, once it was given them. -/
inductive Script where
  /-- Replaces a published snapshot and the permissions in it. -/
  | persistSnapshot
  /-- Stores cached grants and registers their key. -/
  | putGrants
  /-- Drops all cached grants that are registered. -/
  | clearGrants
  deriving DecidableEq, Repr

/-- A command. -/
inductive Command where
  | set (key value : String) (expiry : Option String)
  | get (key : String)
  | delete (keys : List String)
  | expire (key seconds : String)
  | putFields (key : String) (fields : List (String × String))
  | getField (key field : String)
  | addMembers (key : String) (members : List String)
  | members (key : String)
  /-- Make a search index of the given description. -/
  | createIndex (name : String) (description : List String)
  /-- Give the server a script. -/
  | loadScript (script : Script)
  /-- Run a script that the server was given. -/
  | runScript (script : Script) (keys arguments : List String)

/-- The name of a command. -/
def Command.name : Command → String
  | .set .. => "SET"
  | .get _ => "GET"
  | .delete _ => "DEL"
  | .expire .. => "EXPIRE"
  | .putFields .. => "HSET"
  | .getField .. => "HGET"
  | .addMembers .. => "SADD"
  | .members _ => "SMEMBERS"
  | .createIndex .. => "FT.CREATE"
  | .loadScript _ => "SCRIPT"
  | .runScript .. => "EVALSHA"

/-- What a command is answered with. -/
inductive Reply where
  | nothing
  | integer (value : Nat)
  | text (value : String)
  | texts (values : List String)
  deriving DecidableEq, Repr

end Keyspace

/-- A keyspace server. -/
structure Keyspace where
  slots : Dict String Keyspace.Slot
  /-- The search indexes with their descriptions. -/
  indexes : Dict String (List String)
  /-- The scripts that the server was given. -/
  scripts : List Keyspace.Script
  /-- The errors that commands are answered with, by the name of the command. -/
  refusals : Dict String ReplyError

namespace Keyspace

/-- A server that holds nothing. -/
def empty : Keyspace := ⟨∅, ∅, [], ∅⟩

/-- The server with the commands of a name answered by an error, or carried out again. -/
def refuse (keyspace : Keyspace) (name : String) (error : Option ReplyError) : Keyspace :=
  { keyspace with refusals := keyspace.refusals.alter name fun _ => error }

/-- A step of the server: it ends with a value or an error reply, and what it did until then
stays done. -/
abbrev Step := ExceptT ReplyError (StateM Keyspace)

/-- The reply where a key holds another kind of content. -/
def wrongKind : ReplyError :=
  ⟨"WRONGTYPE", some "Operation against a key holding the wrong kind of value"⟩

/-- The reply where a script is to be run that the server was not given. -/
def noScript : ReplyError := ⟨"NOSCRIPT", some "No matching script. Please use EVAL."⟩

/-- The reply where an index is to be made that there is. -/
def indexExists : ReplyError := ⟨"SEARCH_INDEX_EXISTS", some "Index already exists"⟩

/-- Fails if commands of this name are switched off. -/
def permit (name : String) : Step Unit := do
  match (← get).refusals[name]? with
  | some error => throw error
  | none => return ()

/-- Puts content under a key. -/
def put (key : String) (slot : Slot) : Step Unit :=
  modify fun keyspace => { keyspace with slots := keyspace.slots.insert key slot }

/-- What a key holds. -/
def slot? (key : String) : Step (Option Slot) := do
  return (← get).slots[key]?

/-- The text under a key, if there is one. -/
def textAt (key : String) : Step (Option String) := do
  match ← slot? key with
  | none => return none
  | some ⟨.text value, _⟩ => return some value
  | some _ => throw wrongKind

/-- The hash under a key, empty if there is none, and its expiry. -/
def hashAt (key : String) : Step (Dict String String × Option String) := do
  match ← slot? key with
  | none => return (∅, none)
  | some ⟨.hash fields, expiry⟩ => return (fields, expiry)
  | some _ => throw wrongKind

/-- The set under a key, empty if there is none, and its expiry. -/
def setAt (key : String) : Step (Bag String × Option String) := do
  match ← slot? key with
  | none => return (∅, none)
  | some ⟨.set members, expiry⟩ => return (members, expiry)
  | some _ => throw wrongKind

/-- Puts a text under a key, whatever was there. -/
def set (key value : String) (expiry : Option String) : Step Unit := do
  permit "SET"
  put key ⟨.text value, expiry⟩

/-- Removes keys; answers how many of them there were. -/
def delete (keys : List String) : Step Nat := do
  permit "DEL"
  let slots := (← get).slots
  modify fun keyspace => { keyspace with slots := keys.foldl Std.ExtTreeMap.erase slots }
  return slots.size - (keys.foldl Std.ExtTreeMap.erase slots).size

/-- Gives a key some seconds to live; answers whether there is such a key. -/
def expire (key seconds : String) : Step Bool := do
  permit "EXPIRE"
  match ← slot? key with
  | none => return false
  | some slot =>
    put key { slot with expiry := some seconds }
    return true

/-- Puts fields into a hash; answers how many of them are new. -/
def putFields (key : String) (fields : List (String × String)) : Step Nat := do
  permit "HSET"
  let (old, expiry) ← hashAt key
  let new := fields.foldl (fun hash field => hash.insert field.1 field.2) old
  put key ⟨.hash new, expiry⟩
  return new.size - old.size

/-- A field of a hash. -/
def getField (key field : String) : Step (Option String) := do
  permit "HGET"
  return (← hashAt key).1[field]?

/-- Puts members into a set; answers how many of them are new. -/
def addMembers (key : String) (members : List String) : Step Nat := do
  permit "SADD"
  let (old, expiry) ← setAt key
  let new := members.foldl (fun set member => set.insert member) old
  put key ⟨.set new, expiry⟩
  return new.size - old.size

/-- The members of a set in ascending order. -/
def members (key : String) : Step (List String) := do
  permit "SMEMBERS"
  return (← setAt key).1.toList

/-- The text under a key. -/
def getText (key : String) : Step (Option String) := do
  permit "GET"
  textAt key

/-- Makes a search index. -/
def createIndex (name : String) (description : List String) : Step Unit := do
  permit "FT.CREATE"
  if (← get).indexes.contains name then throw indexExists
  modify fun keyspace => { keyspace with indexes := keyspace.indexes.insert name description }

end Keyspace

end AccessControl
