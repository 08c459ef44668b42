import AccessControl.Decimal.Natural
import AccessControl.Event
import AccessControl.Text.Alphanumeric
import AccessControl.Text.Blank
import AccessControl.Text.Split

/-!
# Filters of the log

A log filter is a sequence of rules, each with the least level to be shown and, possibly, the start
of the names that it is for and fields that must be there.  Of the rules that fit an event the one
with the longest name decides, then the one with more fields, and the later of equal ones.
-/

namespace AccessControl

/-- The rank of a level; what matters more has the higher rank. -/
def Level.rank : Level → Nat
  | .trace => 0
  | .debug => 1
  | .info => 2
  | .warn => 3
  | .error => 4

namespace Worker

/-- A rule of a log filter. -/
structure LogRule where
  /-- What the names start with that the rule is for; empty for all names. -/
  target : String
  /-- The fields that an event must have for the rule to be for it. -/
  fields : List String
  /-- The least level that is shown; none if nothing is. -/
  least : Option Level
  deriving DecidableEq, Repr

namespace LogRule

/-- The least level that a text spells, by name or by number. -/
def parseLevel (text : String) : Option (Option Level) :=
  match Decimal.natural (Decimal.capacity 64) text with
  | .ok 0 => some none
  | .ok 1 => some (some .error)
  | .ok 2 => some (some .warn)
  | .ok 3 => some (some .info)
  | .ok 4 => some (some .debug)
  | .ok 5 => some (some .trace)
  | _ =>
    match Text.lowerAscii text with
    | "off" => some none
    | "error" => some (some .error)
    | "warn" => some (some .warn)
    | "info" => some (some .info)
    | "debug" => some (some .debug)
    | "trace" => some (some .trace)
    | _ => none

/-- Whether a rule without brackets can start with the character. -/
def canStart (c : Char) : Bool :=
  c = '-' || c = ':' || c = '_' || Text.isAlphanumeric c

/-- Which part of a rule is being read, and where it started.  Places count UTF-8 bytes. -/
inductive Part where
  /-- A level, or the start of names. -/
  | name (start : Nat)
  /-- The name of a span, behind the opening bracket. -/
  | span (start : Nat)
  /-- A field of a span or an event, behind the opening brace. -/
  | field (start : Nat)
  /-- Behind the closing brace. -/
  | fieldsRead
  /-- Behind the closing bracket. -/
  | spanRead
  /-- A level, behind the equals sign. -/
  | level (start : Nat)
  deriving DecidableEq, Repr

/-- What was read of a rule. -/
structure Draft where
  target : String := ""
  /-- Whether the rule is only for what happens in spans of a name. -/
  namesSpan : Bool := false
  /-- The fields, each possibly with the value that it must have. -/
  fields : List String := []
  deriving DecidableEq, Repr

/-- The part of a text between two places. -/
def cut (text : List Char) (start stop : Nat) : String :=
  let rec go : Nat → List Char → List Char
    | _, [] => []
    | place, c :: rest =>
      if stop ≤ place then []
      else if start ≤ place then c :: go (place + c.utf8Size) rest
      else go (place + c.utf8Size) rest
  String.ofList (go 0 text)

/-- Reads one character of a rule; `place` is where it stands, and `piece` gives the text between two
places. -/
def read (piece : Nat → Nat → String) (place : Nat) (c : Char) :
    Part → Draft → Option (Part × Draft)
  | .name start, draft =>
    if c = '=' then some (.level (place + 1), { draft with target := piece start place })
    else if c = '[' then some (.span (place + 1), { draft with target := piece start place })
    else some (.name start, draft)
  | .span start, draft =>
    if c = ']' then some (.spanRead, { draft with namesSpan := true })
    else if c = '\x7b' then
      some (.field (place + 1), { draft with namesSpan := piece start place ≠ "" })
    else some (.span start, draft)
  | .field start, draft =>
    if c ≠ '\x7d' then some (.field start, draft)
    else if piece start place = "" then none
    else some (.fieldsRead, { draft with fields := draft.fields ++ [piece start place] })
  | .fieldsRead, draft => if c = ']' then some (.spanRead, draft) else none
  | .spanRead, draft => if c = '=' then some (.level (place + 1), draft) else none
  | .level start, draft => some (.level start, draft)

/-- Reads the characters of a rule. -/
def readAll (piece : Nat → Nat → String) : (place : Nat) → List Char → Part → Draft →
    Option (Part × Draft)
  | _, [], part, draft => some (part, draft)
  | place, c :: rest, part, draft => do
    let (part, draft) ← read piece place c part draft
    readAll piece (place + c.utf8Size) rest part draft

/-- The rule for events that a draft with a level makes, if it makes one: what happens in spans, and
the values of fields, are nothing that events are chosen by. -/
def ofDraft (draft : Draft) (least : Option Level) : Option LogRule :=
  if draft.namesSpan || draft.fields.any fun field => field.toList.contains '=' then none
  else some ⟨draft.target, draft.fields, least⟩

/-- The rule that a text spells: a level, a name, or both with an equals sign between them, and
possibly fields in brackets and braces behind the name.  A name alone shows everything under it.
Blanks around the text are not read, but they count where pieces are taken from it.  A text that can
be read may still spell no rule for events. -/
def parse (text : String) : Option (Option LogRule) := do
  let whole := text.toList
  let size := text.utf8ByteSize
  let chars := Text.trimStartChars (Text.trimEndChars whole)
  let first ← chars.head?
  let start : Part ←
    if first = '[' then some (.span 1) else if canStart first then some (.name 0) else none
  let (part, draft) ← readAll (cut whole) first.utf8Size chars.tail start {}
  match part with
  | .name start =>
    let name := cut whole start size
    match parseLevel name with
    | some least => some (some ⟨"", [], least⟩)
    | none => some (some ⟨name, [], some .trace⟩)
  | .spanRead => some (ofDraft draft (some .trace))
  | .level start =>
    let level := cut whole start size
    let least ← if level = "" then some (some .trace) else parseLevel level
    some (ofDraft draft least)
  | _ => none

/-- Whether the rule is for an event. -/
def fits (rule : LogRule) (event : Event) : Bool :=
  rule.target.toList.isPrefixOf event.target.toList &&
    rule.fields.all fun field => field = "message" || (event.fields.map Prod.fst).contains field

/-- Whether a rule says no less than another about which events it is for: a longer start of names, or
more fields, or later ones in the alphabet. -/
def isNoLessSpecific (rule other : LogRule) : Bool :=
  let sizes (rule : LogRule) : Nat × Nat := (rule.target.utf8ByteSize, rule.fields.length)
  (compareLex (compareOn fun rule => (sizes rule).1)
    (compareLex (compareOn fun rule => (sizes rule).2) (compareOn fields)) other rule).isLE

/-- Whether the rule shows events of this level. -/
def shows (rule : LogRule) (level : Level) : Bool :=
  rule.least.any fun least => least.rank ≤ level.rank

end LogRule

/-- A log filter: rules, the earliest first. -/
abbrev LogFilter := List LogRule

namespace LogFilter

/-- What is shown without a filter that can be understood. -/
def usual : LogFilter := [⟨"", [], some .info⟩]

/-- The filter that a text spells, if it can be understood.  Of a text without rules only errors are
shown. -/
def parse (text : String) : Option LogFilter := do
  let rules ← ((Text.split ',' text).filter (· ≠ "")).mapM LogRule.parse
  return if rules.isEmpty then [⟨"", [], some .error⟩] else rules.filterMap id

/-- The filter that a variable asks for. -/
def ofVariable (value : Option String) : LogFilter :=
  ((value.bind parse).getD usual)

/-- The more specific of two rules, the second being the later. -/
def better (best : Option LogRule) (rule : LogRule) : Option LogRule :=
  match best with
  | none => some rule
  | some other => if rule.isNoLessSpecific other then some rule else some other

/-- The rule that decides on an event. -/
def deciding (filter : LogFilter) (event : Event) : Option LogRule :=
  (filter.filter fun rule => rule.fits event).foldl better none

/-- Whether an event is shown. -/
def shows (filter : LogFilter) (event : Event) : Bool :=
  (filter.deciding event).any fun rule => rule.shows event.level

end LogFilter

end Worker

end AccessControl
