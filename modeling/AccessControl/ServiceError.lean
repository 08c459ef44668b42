import AccessControl.Json.Reader
import AccessControl.Locator
import AccessControl.Outage

/-!
# Errors

Why an operation could not be carried out.  A refused request is an error only where the caller
demanded access; everything else is an invalid input, a store that did not answer, or stored
content that cannot be read.
-/

namespace AccessControl

/-- The kinds that errors are reported under. -/
inductive ErrorKind where
  | validation
  | forbidden
  | snapshotLoad
  | unavailable
  | internal
  deriving DecidableEq, Repr

namespace ErrorKind

/-- The name of the kind. -/
def name : ErrorKind → String
  | .validation => "Validation"
  | .forbidden => "Forbidden"
  | .snapshotLoad => "SnapshotLoad"
  | .unavailable => "Unavailable"
  | .internal => "Internal"

/-- What the wording of every error of the kind starts with. -/
def heading : ErrorKind → String
  | .validation => "validation error"
  | .forbidden => "forbidden"
  | .snapshotLoad => "snapshot load failed"
  | .unavailable => "backing store unavailable"
  | .internal => "internal error"

end ErrorKind

/-- Why an operation could not be carried out. -/
inductive ServiceError where
  /-- A text that was refused. -/
  | invalid (cause : Invalid)
  /-- A document that is to be stored and is no entry. -/
  | invalidEntry (cause : DecodeError)
  /-- Access was demanded and is denied. -/
  | notAuthorized
  /-- A stored group, role or permission that cannot be decoded. -/
  | unreadableRecord (space subpath shortname : String) (cause : DecodeError)
  /-- A published document that is no snapshot. -/
  | unreadableSnapshot (cause : DecodeError)
  /-- A published text that is no document. -/
  | unreadableSnapshotText (name : String) (fault : Json.ReadError)
  | unavailable (outage : Outage)
  /-- A stored entry that cannot be decoded. -/
  | corruptEntry (locator : Locator) (cause : DecodeError)
  /-- A row whose type is none. -/
  | corruptRow (shortname : String) (cause : Invalid)
  /-- A cached text that holds no grants. -/
  | corruptCache (user : String) (fault : Json.ReadError)
  deriving DecidableEq, Repr

namespace ServiceError

/-- The kind that the error is reported under. -/
def kind : ServiceError → ErrorKind
  | .invalid _ | .invalidEntry _ => .validation
  | .notAuthorized => .forbidden
  | .unreadableRecord .. | .unreadableSnapshot _ | .unreadableSnapshotText .. => .snapshotLoad
  | .unavailable _ => .unavailable
  | .corruptEntry .. | .corruptRow .. | .corruptCache .. => .internal

/-- The wording without the heading of the kind. -/
def detail : ServiceError → String
  | .invalid cause => cause.message
  | .invalidEntry cause => s!"invalid entry meta: {cause.message}"
  | .notAuthorized => "not authorized"
  | .unreadableRecord space subpath shortname cause =>
    s!"failed to decode @{space}/{subpath}/{shortname}: {cause.message}"
  | .unreadableSnapshot cause => s!"failed to decode published snapshot: {cause.message}"
  | .unreadableSnapshotText name fault => s!"failed to decode snapshot '{name}': {fault.message}"
  | .unavailable outage => outage.message
  | .corruptEntry ⟨space, subpath, shortname, _⟩ cause =>
    s!"failed to decode @{space}/{subpath}/{shortname}: {cause.message}"
  | .corruptRow shortname cause =>
    s!"entry '{shortname}' has an invalid resource type: validation error: {cause.message}"
  | .corruptCache user fault => s!"invalid cached permissions for '{user}': {fault.message}"

/-- The wording of the error. -/
def message (error : ServiceError) : String :=
  s!"{error.kind.heading}: {error.detail}"

end ServiceError

end AccessControl
