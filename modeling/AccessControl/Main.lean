import AccessControl.Worker.Job
import Std.Time.DateTime.Timestamp

/-!
# The worker program

Reads the arguments, the environment and the environment file of the current directory, and runs
the worker on a database and a keyspace server kept within the process, which take the place of
the ones at the configured addresses.  Events go to standard output, failures to standard error.
-/

namespace AccessControl.Worker

/-- The environment, as far as the worker or its environment file may speak of it. -/
def readEnvironment (envFile : Option String) : IO Environment := do
  let names := "RUST_LOG" :: Config.variableNames ++ envFile.elim [] EnvFile.mentioned
  let mut environment : Environment := ∅
  for name in names do
    if let some value ← IO.getEnv name then
      environment := environment.insert name value
  return environment

/-- The text of the environment file, if there is one. -/
def readEnvFile : IO (Option String) := do
  try
    return some (← IO.FS.readFile ".env")
  catch _ =>
    return none

/-- An identifier drawn at random: version 4, variant 1. -/
def drawUuid : IO Uuid := do
  let mut value := 0
  for index in [0:32] do
    let digit ← IO.rand 0 15
    let digit := if index = 12 then 4 else if index = 16 then 8 + digit % 4 else digit
    value := 16 * value + digit
  return .ofNat value

/-- The identity of a snapshot built now. -/
def drawEdition : IO Edition := do
  let now ← Std.Time.Timestamp.now
  return ⟨← drawUuid, .ofNanoseconds now.toNanosecondsSinceUnixEpoch.val⟩

/-- Prints the events that were told. -/
def printEvents (filter : LogFilter) (job : Job) : IO Unit := do
  let now ← Std.Time.Timestamp.now
  let time := Timestamp.ofNanoseconds now.toNanosecondsSinceUnixEpoch.val
  for event in job.shownEvents filter do
    IO.println (time.text ++ " " ++ event.line)
  (← IO.getStdout).flush

/-- Prints a failure and answers the exit code. -/
def fail (failure : Failure) : IO UInt32 := do
  IO.eprintln failure.report
  return 1

/-- Carries out the command, and again after the interval if it is to be repeated. -/
partial def carryOn (filter : LogFilter) (job : Job) : IO UInt32 := do
  let edition ← drawEdition
  let job := { job with cluster := { job.cluster with editions := fun _ => edition } }
  let (result, job) := job.perform
  printEvents filter job
  match result with
  | .error error => fail (.service error)
  | .ok _ =>
    if job.repeats then
      for _ in [0:job.config.intervalSeconds] do
        IO.sleep 1000
      carryOn filter { job with cluster := { job.cluster with journal := [] } }
    else return 0

/-- Runs the worker program. -/
def program (arguments : List String) : IO UInt32 := do
  let envFile ← readEnvFile
  let environment ← readEnvironment envFile
  let environment := envFile.elim environment fun text => EnvFile.load text environment
  let filter := LogFilter.ofVariable environment["RUST_LOG"]?
  let surroundings : Surroundings := {
    databaseUrl := environment["DATABASE_URL"]?.getD ""
    keyspaceUrl := environment["REDIS_URL"]?.getD ""
    database := {}
    keyspace := .empty }
  let edition ← drawEdition
  match Job.prepare surroundings (fun _ => edition) environment arguments with
  | .error failure => fail failure
  | .ok job => carryOn filter job.start

end AccessControl.Worker

/-- The worker program. -/
def main (arguments : List String) : IO UInt32 :=
  AccessControl.Worker.program arguments
