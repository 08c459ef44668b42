import AccessControl.Keyspace.Script
import AccessControl.ServiceError

/-!
# Attempts on a keyspace server

An errand to a server that may not be there: an error reply, or that nothing listens, becomes an
outage.
-/

namespace AccessControl.Keyspace

variable {α : Type}

/-- Carries out a step on an errand. -/
def attempt (isUp : Bool) (errand : KeyspaceErrand) (step : Step α) (keyspace : Keyspace) :
    Except ServiceError α × Keyspace :=
  if isUp then
    match step.run keyspace with
    | (.ok value, keyspace) => (.ok value, keyspace)
    | (.error error, keyspace) =>
      (.error (.unavailable (.keyspace errand (.reply error))), keyspace)
  else (.error (.unavailable (.keyspace .connect .unreachable)), keyspace)

end AccessControl.Keyspace
