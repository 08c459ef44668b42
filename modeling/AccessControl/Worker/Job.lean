import AccessControl.Cluster
import AccessControl.Keyspace.Location
import AccessControl.Text.Quoted
import AccessControl.Worker.EnvFile
import AccessControl.Worker.LogFilter
import AccessControl.Worker.Migration

/-!
# The worker's job

The worker is a single node that keeps entries in a database and publishes snapshots in a keyspace.
It connects to both, and then reloads again and again, reloads once, or shows the filters of a
user's query.
-/

namespace AccessControl.Worker

/-- Why the worker ended. -/
inductive Failure where
  | config (error : ConfigError)
  | migration (fault : MigrationFault)
  /-- The address of the keyspace server is none. -/
  | keyspaceUrl (fault : Keyspace.LocationFault)
  | service (error : ServiceError)

namespace Failure

/-- The kind that the failure is reported under. -/
def kind : Failure → ErrorKind
  | .config _ | .keyspaceUrl _ => .validation
  | .migration _ => .internal
  | .service error => error.kind

/-- The wording without the heading of the kind. -/
def detail : Failure → String
  | .config error => error.message
  | .migration fault => fault.message
  | .keyspaceUrl fault => s!"invalid REDIS_URL: {fault.message}"
  | .service error => error.detail

/-- The report of a failure. -/
def report (failure : Failure) : String :=
  "Error: " ++ failure.kind.name ++ "(" ++ Text.quoted failure.detail ++ ")"

end Failure

/-- The servers that can be reached, and where. -/
structure Surroundings where
  databaseUrl : String
  keyspaceUrl : String
  database : Database.Server
  keyspace : Keyspace
  /-- Why the database refuses a statement while the tables are made, if it does. -/
  refuses : String → Option String := fun _ => none

/-- What keeps the worker from the database at an address. -/
def databaseFault? (surroundings : Surroundings) (url : String) : Option DatabaseFault :=
  if url = surroundings.databaseUrl then none
  else
    match Address.parse url with
    | .error fault => some (.badAddress fault)
    | .ok _ => some .unreachable

/-- Whether a keyspace server listens at an address. -/
def keyspaceIsUp (surroundings : Surroundings) (url : String) :
    Except Keyspace.LocationFault Bool :=
  if url = surroundings.keyspaceUrl then .ok true
  else
    match Keyspace.locationFault? url with
    | some fault => .error fault
    | none => .ok false

/-- A worker that has all it needs. -/
structure Job where
  config : Config
  cluster : Cluster

namespace Job

/-- Connects a worker. -/
def prepare (surroundings : Surroundings) (editions : Nat → Edition) (environment : Environment)
    (arguments : List String) : Except Failure Job := do
  let config ← (Config.load environment arguments).mapError .config
  if let some fault := databaseFault? surroundings config.databaseUrl then
    throw (.service (.unavailable (.database .connect fault)))
  (migrate surroundings.refuses).mapError .migration
  let isUp ← (keyspaceIsUp surroundings config.keyspaceUrl).mapError .keyspaceUrl
  return {
    config := config
    cluster := {
      nodes := fun _ => { settings := config.settings }
      entryStores := fun _ => { store := .database true }
      snapshotStores := fun _ => { store := .keyspace config.keyPrefix isUp }
      cacheStores := fun _ => { store := .keyspace config.keyPrefix isUp }
      keyspace := surroundings.keyspace
      database := surroundings.database
      editions := editions } }

/-- Reloads, and tells of it. -/
def reloadOnce (settings : Settings) : Operation Unit := do
  let snapshot ← reload settings.managementSpace
  Operation.note (.published snapshot.generation snapshot.revision snapshot.loadedAt snapshot.counts)

/-- Reloads, and tells of it or of what went wrong. -/
def reloadRound (settings : Settings) : Operation Unit :=
  tryCatch (reloadOnce settings) fun error => Operation.note (.reloadFailed error)

/-- Shows the filters of a user's query, under the published snapshot or else a new one. -/
def showPolicies (settings : Settings) (user space : String) (subpath : Option String) :
    Operation Unit := do
  if !(← adopt) then
    reloadOnce settings
  let policies ← queryPolicies settings user space subpath
  Operation.note (.policiesResolved user space policies.length)
  Operation.notes (policies.map .policyListed)

/-- What a command asks for, once if it is to be repeated. -/
def program (settings : Settings) : Command → Operation Unit
  | .watch => reloadRound settings
  | .once => reloadOnce settings
  | .policies user space subpath => showPolicies settings user space subpath

/-- Says that the worker has started. -/
def start (job : Job) : Job :=
  let config := job.config
  let started :=
    Event.started config.settings.managementSpace config.intervalSeconds config.keyPrefix
  { job with cluster := ((Cluster.record (.told started)).run job.cluster).2 }

/-- Carries out the command. -/
def perform (job : Job) : Except ServiceError Unit × Job :=
  let (result, cluster) :=
    (Cluster.operate 0 (program job.config.settings job.config.command)).run job.cluster
  (result, { job with cluster := cluster })

/-- Whether the command is to be carried out again and again. -/
def repeats (job : Job) : Bool := job.config.command = .watch

/-- The events that were told so far and are shown, the earliest first. -/
def shownEvents (filter : LogFilter) (job : Job) : List Event :=
  (job.cluster.journal.reverse.filterMap fun occurrence =>
    match occurrence with
    | .told event => some event
    | .called .. => none).filter filter.shows

end Job

/-- How a worker ended, or its first round if it goes on. -/
structure Outcome where
  /-- Why the worker ended, unless it came to its end or goes on. -/
  failure : Option Failure
  /-- Whether the worker goes on. -/
  goesOn : Bool
  shown : List Event
  statements : List Database.Statement
  keyspace : Keyspace

/-- Runs a worker with the arguments, in an environment to which a file adds. -/
def run (surroundings : Surroundings) (editions : Nat → Edition) (environment : Environment)
    (envFile : Option String) (arguments : List String) : Outcome :=
  let environment := envFile.elim environment fun text => EnvFile.load text environment
  let filter := LogFilter.ofVariable environment["RUST_LOG"]?
  match Job.prepare surroundings editions environment arguments with
  | .error failure =>
    ⟨some failure, false, [], surroundings.database.sent.reverse, surroundings.keyspace⟩
  | .ok job =>
    let (result, job) := job.start.perform
    let failure :=
      match result with
      | .ok _ => none
      | .error error => some (.service error)
    ⟨failure, job.repeats && failure.isNone, job.shownEvents filter,
      job.cluster.database.sent.reverse, job.cluster.keyspace⟩

end AccessControl.Worker
