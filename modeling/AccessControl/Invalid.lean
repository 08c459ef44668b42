/-!
# Refused texts

Names, keys and tokens arrive as text.  Each way in which such a text can be refused is one cause
here, with its wording in `Invalid.message`.
-/

namespace AccessControl

/-- Why a text was refused. -/
inductive Invalid where
  /-- A shortname of blanks only, or of nothing. -/
  | blankShortname
  /-- A shortname with a character that keys, tokens or paths reserve. -/
  | reservedCharacter (value : String) (character : Char)
  | unknownResourceType (value : String)
  | unknownAction (value : String)
  | unknownCondition (value : String)
  /-- A permission key that has not three segments. -/
  | keySegments (value : String)
  /-- A policy token that has neither four nor five segments. -/
  | tokenSegments (value : String)
  /-- A policy token whose activity segment is no state. -/
  | tokenState (value state : String)
  /-- The name of no filter format; it is given trimmed and in lower case. -/
  | unknownFormat (value : String)
  deriving DecidableEq, Repr

/-- The wording of a refusal. -/
def Invalid.message : Invalid → String
  | .blankShortname => "shortname must not be empty or whitespace"
  | .reservedCharacter value c => s!"shortname '{value}' must not contain '{c}'"
  | .unknownResourceType value => s!"unknown resource type '{value}'"
  | .unknownAction value => s!"unknown action type '{value}'"
  | .unknownCondition value => s!"unknown condition type '{value}'"
  | .keySegments value =>
    s!"permission key '{value}' must have the form space:subpath:resource_type"
  | .tokenSegments value => s!"query policy '{value}' must have four or five segments"
  | .tokenState value state => s!"query policy '{value}' has invalid state '{state}'"
  | .unknownFormat value =>
    s!"query policy format must be either 'separate' or 'alternation', got '{value}'"

end AccessControl
