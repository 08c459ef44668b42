import AccessControl.Address
import AccessControl.Text.Quoted

/-!
# Outages

A store outside the library may fail to answer.  An outage says what was attempted there and what
came back instead of an answer.
-/

namespace AccessControl

/-- An error reply of a keyspace server: its first word and what follows. -/
structure ReplyError where
  code : String
  detail : Option String
  deriving DecidableEq, Repr

namespace ReplyError

/-- An error reply from its text. -/
def ofText (text : String) : ReplyError :=
  let chars := text.toList
  match chars.dropWhile (· ≠ ' ') with
  | [] => ⟨text, none⟩
  | _ :: rest => ⟨String.ofList (chars.takeWhile (· ≠ ' ')), some (String.ofList rest)⟩

/-- How the first word is spoken of: the usual ones have names, all others are quoted. -/
def kind (error : ReplyError) : String :=
  match error.code with
  | "ERR" => "ResponseError"
  | "EXECABORT" => "ExecAbort"
  | "LOADING" => "BusyLoading"
  | "NOSCRIPT" => "NoScript"
  | "MOVED" => "Moved"
  | "ASK" => "Ask"
  | "TRYAGAIN" => "TryAgain"
  | "CLUSTERDOWN" => "ClusterDown"
  | "CROSSSLOT" => "CrossSlot"
  | "MASTERDOWN" => "MasterDown"
  | "READONLY" => "ReadOnly"
  | "NOTBUSY" => "NotBusy"
  | "NOSUB" => "NoSub"
  | "NOPERM" => "NoPerm"
  | other => Text.quoted other

/-- The wording of an error reply. -/
def message (error : ReplyError) : String :=
  match error.detail with
  | none => error.kind
  | some detail => error.kind ++ ": " ++ detail

/-- The text that the server sent. -/
def text (error : ReplyError) : String :=
  match error.detail with
  | none => error.code
  | some detail => error.code ++ " " ++ detail

end ReplyError

/-- What keeps a keyspace server from giving an answer. -/
inductive KeyspaceFault where
  /-- Nothing listens where the server should be. -/
  | unreachable
  | reply (error : ReplyError)
  deriving DecidableEq, Repr

/-- The wording of a fault. -/
def KeyspaceFault.message : KeyspaceFault → String
  | .unreachable => "No such file or directory (os error 2)"
  | .reply error => error.message

/-- What was attempted on a keyspace server. -/
inductive KeyspaceErrand where
  | connect
  | createIndex
  | persistSnapshot (name : String)
  | readSnapshot (name : String)
  | readCache (user : String)
  | writeCache (user : String)
  | clearCache
  deriving DecidableEq, Repr

/-- The wording of a failed attempt. -/
def KeyspaceErrand.message : KeyspaceErrand → String
  | .connect => "failed to connect to redis"
  | .createIndex => "failed to create permission index"
  | .persistSnapshot name => s!"failed to persist snapshot '{name}'"
  | .readSnapshot name => s!"failed to read snapshot '{name}'"
  | .readCache user => s!"failed to read cached permissions for '{user}'"
  | .writeCache user => s!"failed to cache permissions for '{user}'"
  | .clearCache => "failed to clear cached permissions"

/-- What keeps a database from giving an answer. -/
inductive DatabaseFault where
  /-- The connections were closed. -/
  | closed
  /-- The database refused the statement. -/
  | refused (text : String)
  /-- The address of the database server is none. -/
  | badAddress (fault : AddressFault)
  /-- Nothing listens where the server should be. -/
  | unreachable
  deriving DecidableEq, Repr

/-- The wording of a fault. -/
def DatabaseFault.message : DatabaseFault → String
  | .closed => "attempted to acquire a connection on a closed pool"
  | .refused text => s!"error returned from database: {text}"
  | .badAddress fault => s!"error with configuration: {fault.message}"
  | .unreachable => "error communicating with database: No such file or directory (os error 2)"

/-- What was attempted on a database. -/
inductive DatabaseErrand where
  | connect
  | saveEntry (space subpath shortname : String)
  | search
  | loadEntry
  | loadEntries (space subpath : String)
  deriving DecidableEq, Repr

/-- The wording of a failed attempt. -/
def DatabaseErrand.message : DatabaseErrand → String
  | .connect => "failed to connect to database"
  | .saveEntry space subpath shortname => s!"failed to save entry @{space}/{subpath}/{shortname}"
  | .search => "failed to search entries"
  | .loadEntry => "failed to load entry"
  | .loadEntries space subpath => s!"failed to load @{space}/{subpath} entries"

/-- A store that did not answer. -/
inductive Outage where
  /-- The store was switched off, for the reason given. -/
  | switchedOff (reason : String)
  | keyspace (errand : KeyspaceErrand) (fault : KeyspaceFault)
  | database (errand : DatabaseErrand) (fault : DatabaseFault)
  deriving DecidableEq, Repr

/-- The wording of an outage. -/
def Outage.message : Outage → String
  | .switchedOff reason => reason
  | .keyspace errand fault => s!"{errand.message}: {fault.message}"
  | .database errand fault => s!"{errand.message}: {fault.message}"

end AccessControl
