import AccessControl.Decimal.Natural
import AccessControl.Ordered
import AccessControl.Settings
import AccessControl.Text.Split

/-!
# Configuration of the worker

The worker is told what to do by its arguments and how by its environment.  Variables are looked at
in a fixed order, so the first of several mistakes is reported.
-/

namespace AccessControl.Worker

/-- What the worker is to do. -/
inductive Command where
  /-- Reload again and again. -/
  | watch
  /-- Reload once. -/
  | once
  /-- Show the filters of a user's query in a space, on a subpath or everywhere. -/
  | policies (user space : String) (subpath : Option String)
  deriving DecidableEq, Repr

/-- What is wrong with the arguments or the environment. -/
inductive ConfigError where
  | unknownCommand (arguments : List String)
  | unknownFormat (cause : Invalid)
  | badNumber (name value : String) (fault : Decimal.NaturalFault)
  | badFlag (name value : String)
  | zeroInterval
  | missing (name : String)
  deriving DecidableEq, Repr

/-- Where the worker looks for its settings: the values of variables by name. -/
abbrev Environment := Dict String String

/-- The variable that tells how long to wait between two reloads. -/
def intervalVariable : String := "PERMISSION_RELOAD_INTERVAL_SECONDS"

/-- The wording of a mistake. -/
def ConfigError.message : ConfigError → String
  | .unknownCommand arguments =>
    let words := " ".intercalate arguments
    s!"unknown command '{words}', expected 'once' or 'policies <user> <space> [subpath]'"
  | .unknownFormat cause => cause.message
  | .badNumber name value fault => s!"invalid {name} value '{value}': {fault.message}"
  | .badFlag name value => s!"invalid {name} value '{value}': expected a boolean"
  | .zeroInterval => s!"{intervalVariable} must be greater than zero"
  | .missing name => s!"{name} is required"

/-- The command that arguments spell. -/
def Command.parse : List String → Except ConfigError Command
  | [] => .ok .watch
  | ["once"] => .ok .once
  | ["policies", user, space] => .ok (.policies user space none)
  | ["policies", user, space, subpath] => .ok (.policies user space (some subpath))
  | arguments => .error (.unknownCommand arguments)

/-- The flag that a value spells; blanks around it and the case of its letters do not count. -/
def parseFlag (name value : String) : Except ConfigError Bool :=
  match Text.lowerAscii (Text.trim value) with
  | "1" | "true" | "yes" | "on" => .ok true
  | "0" | "false" | "no" | "off" | "" => .ok false
  | _ => .error (.badFlag name value)

/-- How the worker is to work. -/
structure Config where
  databaseUrl : String
  keyspaceUrl : String
  keyPrefix : String
  intervalSeconds : Nat
  command : Command
  settings : Settings
  deriving DecidableEq, Repr

namespace Config

/-- The variables that the worker looks at. -/
def variableNames : List String :=
  ["DATABASE_URL", "REDIS_URL", "REDIS_KEY_PREFIX", "MANAGEMENT_SPACE", "DEFAULT_ROLE",
   "QUERY_POLICY_FORMAT", "ACCESS_DEBUG", "USER_PERMISSIONS_TTL_SECONDS", intervalVariable]

/-- The value of a variable as a flag, `absent` if there is none. -/
def flag (environment : Environment) (name : String) (absent : Bool) : Except ConfigError Bool :=
  match environment[name]? with
  | some value => parseFlag name value
  | none => .ok absent

/-- The value of a variable as a number that so many bits can hold, `absent` if there is none. -/
def number (environment : Environment) (bits : Nat) (name : String) (absent : Nat) :
    Except ConfigError Nat :=
  match environment[name]? with
  | none => .ok absent
  | some value =>
    match Decimal.natural (Decimal.capacity bits) value with
    | .ok n => .ok n
    | .error fault => .error (.badNumber name value fault)

/-- The value of a variable that has to be there. -/
def demanded (environment : Environment) (name : String) : Except ConfigError String :=
  match environment[name]? with
  | some value => .ok value
  | none => .error (.missing name)

/-- The role that every user holds; a blank value stands for none. -/
def defaultRole (environment : Environment) (absent : Option String) : Option String :=
  match environment["DEFAULT_ROLE"]? with
  | none => absent
  | some role => if Text.isAllBlank role then none else some (Text.trim role)

/-- How filters are written. -/
def filterFormat (environment : Environment) (absent : FilterFormat) :
    Except ConfigError FilterFormat :=
  match environment["QUERY_POLICY_FORMAT"]? with
  | none => .ok absent
  | some value =>
    match FilterFormat.parse value with
    | .ok format => .ok format
    | .error cause => .error (.unknownFormat cause)

/-- The configuration from arguments and an environment. -/
def load (environment : Environment) (arguments : List String) : Except ConfigError Config := do
  let command ← Command.parse arguments
  let defaults : Settings := {}
  let role := defaultRole environment defaults.defaultRole
  let format ← filterFormat environment defaults.filterFormat
  let intervalSeconds ← number environment 64 intervalVariable 60
  if intervalSeconds = 0 then throw .zeroInterval
  let databaseUrl ← demanded environment "DATABASE_URL"
  let keyspaceUrl ← demanded environment "REDIS_URL"
  let debugDenials ← flag environment "ACCESS_DEBUG" defaults.debugDenials
  let cacheSeconds ← number environment 32 "USER_PERMISSIONS_TTL_SECONDS" defaults.cacheSeconds
  return {
    databaseUrl := databaseUrl
    keyspaceUrl := keyspaceUrl
    keyPrefix := environment["REDIS_KEY_PREFIX"]?.getD "dmart"
    intervalSeconds := intervalSeconds
    command := command
    settings := {
      managementSpace := environment["MANAGEMENT_SPACE"]?.getD defaults.managementSpace
      defaultRole := role
      debugDenials := debugDenials
      cacheSeconds := cacheSeconds
      filterFormat := format } }

end Config

end AccessControl.Worker
