import AccessControl.Grant
import AccessControl.ServiceError
import AccessControl.Snapshot

/-!
# Events

What is worth telling an operator while operations run.  Each event is a case of its own; its
level, its wording and its named fields are read off the case.
-/

namespace AccessControl

/-- How much an event matters, from the least. -/
inductive Level where
  | trace
  | debug
  | info
  | warn
  | error
  deriving DecidableEq, Repr

/-- The name of a level in reports. -/
def Level.name : Level → String
  | .trace => "TRACE"
  | .debug => "DEBUG"
  | .info => "INFO"
  | .warn => "WARN"
  | .error => "ERROR"

/-- Something that happened. -/
inductive Event where
  /-- A reload published and installed a snapshot. -/
  | reloaded (generation : Nat) (revision : Uuid) (counts : Snapshot.Counts)
  /-- A reload could not drop the cached permissions. -/
  | cacheNotCleared (generation : Nat) (error : ServiceError)
  /-- A published snapshot was left alone because it is older than the current one. -/
  | olderIgnored (theirs ours : Nat)
  /-- A published snapshot was installed. -/
  | adopted (generation : Nat) (revision : Uuid)
  /-- A user is in a group that the snapshot does not hold. -/
  | unknownGroup (user group : Shortname)
  /-- A role names a permission that the snapshot does not hold. -/
  | unknownPermission (role permission : Shortname)
  /-- A grant was found and a check on it failed. -/
  | checkFailed (user : String) (key : PermissionKey) (action : Action) (check : AccessCheck)
  /-- No grant allowed a request. -/
  | denied (user space subpath : String) (type : ResourceType) (action : Action)
  /-- The keyspace cannot index the published permissions. -/
  | indexSkipped (error : KeyspaceFault)
  /-- The worker has everything it needs to start. -/
  | started (managementSpace : String) (intervalSeconds : Nat) (keyPrefix : String)
  /-- The worker carried out a reload. -/
  | published (generation : Nat) (revision : Uuid) (loadedAt : Option Timestamp)
      (counts : Snapshot.Counts)
  /-- The worker found the filters of a user. -/
  | policiesResolved (user space : String) (count : Nat)
  /-- One of the filters. -/
  | policyListed (policy : String)
  /-- The worker goes on after a failed reload. -/
  | reloadFailed (error : ServiceError)

namespace Event

/-- How much the event matters. -/
def level : Event → Level
  | .reloaded .. | .adopted .. | .started .. | .published .. | .policiesResolved .. |
    .policyListed .. => .info
  | .cacheNotCleared .. | .olderIgnored .. | .unknownGroup .. | .unknownPermission .. |
    .indexSkipped .. | .reloadFailed .. => .warn
  | .checkFailed .. | .denied .. => .debug

/-- The name that log filters know the event by. -/
def target : Event → String
  | .reloaded .. | .cacheNotCleared .. | .olderIgnored .. | .adopted .. =>
    "dmart_application::permission_store"
  | .unknownGroup .. | .unknownPermission .. => "dmart_application::permission_resolver"
  | .checkFailed .. | .denied .. => "dmart_application::access_control_service::decision"
  | .indexSkipped .. => "dmart_infrastructure::redis_snapshot_repository"
  | .started .. | .published .. | .policiesResolved .. | .policyListed .. | .reloadFailed .. =>
    "dmart_permission_worker"

/-- The wording of the event. -/
def message : Event → String
  | .reloaded .. => "permission snapshot reloaded"
  | .cacheNotCleared .. => "failed to clear cached user permissions"
  | .olderIgnored .. => "ignoring published permission snapshot older than the current one"
  | .adopted .. => "adopted published permission snapshot"
  | .unknownGroup .. => "user belongs to an unknown or inactive group"
  | .unknownPermission .. => "role references an unknown or inactive permission"
  | .checkFailed .. => "access sub-check failed"
  | .denied .. => "access denied: no permission key allowed the request"
  | .indexSkipped .. => "redis search module unavailable; permission index skipped"
  | .started .. => "dmart-permission-worker started"
  | .published .. => "permission snapshot published"
  | .policiesResolved .. => "resolved query policies"
  | .policyListed .. => "query policy"
  | .reloadFailed .. => "permission reload failed; keeping previous snapshot"

/-- The fields that tell how many records there are. -/
def countFields (counts : Snapshot.Counts) : List (String × String) :=
  [("groups", toString counts.groups), ("roles", toString counts.roles),
   ("permissions", toString counts.permissions)]

/-- The named fields of the event in the order in which they are told. -/
def fields : Event → List (String × String)
  | .reloaded generation revision counts =>
    [("generation", toString generation), ("revision", revision.text)] ++ countFields counts
  | .cacheNotCleared generation error =>
    [("generation", toString generation), ("error", error.message)]
  | .olderIgnored theirs ours =>
    [("published", toString theirs), ("current", toString ours)]
  | .adopted generation revision =>
    [("generation", toString generation), ("revision", revision.text)]
  | .unknownGroup user group => [("user", user.text), ("group", group.text)]
  | .unknownPermission role permission =>
    [("role", role.text), ("permission", permission.text)]
  | .checkFailed user key action check =>
    [("user", user), ("permission_key", key.text), ("action", action.name),
     ("check", check.label)]
  | .denied user space subpath type action =>
    [("user", user), ("space", space), ("subpath", subpath), ("resource_type", type.name),
     ("action", action.name)]
  | .indexSkipped error => [("error", error.message)]
  | .started managementSpace intervalSeconds keyPrefix =>
    [("management_space", managementSpace),
     ("reload_interval_seconds", toString intervalSeconds), ("redis_key_prefix", keyPrefix)]
  | .published generation revision loadedAt counts =>
    [("generation", toString generation), ("revision", revision.text),
     ("loaded_at", loadedAt.elim "None" fun time => s!"Some({time.text})")] ++ countFields counts
  | .policiesResolved user space count =>
    [("user", user), ("space", space), ("count", toString count)]
  | .policyListed policy => [("policy", policy)]
  | .reloadFailed error => [("error", error.message)]

/-- The event as a line of a log. -/
def line (event : Event) : String :=
  " ".intercalate ([event.level.name, event.message] ++
    event.fields.map fun (name, value) => name ++ "=" ++ value)

end Event

end AccessControl
