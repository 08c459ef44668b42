import AccessControl.Decimal.Shortest
import AccessControl.Json.Basic
import AccessControl.Resource
import AccessControl.Shortname
import AccessControl.Text.Quoted
import AccessControl.Timestamp
import AccessControl.Uuid

/-!
# Reading values out of documents

A decoder takes a document apart into a value or says what is wrong with it.  Maps are visited in
the order of their members and the first member that fails is reported; members that a record
requires and the document lacks are reported after that, in the order of the record.

A record may also be written as a sequence of its fields in order.  `Fields` describes a record:
its fields, how each is decoded, and which of them may be absent.
-/

namespace AccessControl

/-- What a document holds where something else was expected. -/
inductive Found where
  | null
  | bool (value : Bool)
  | int (value : Int)
  | float (bits : UInt64)
  | text (value : String)
  | sequence
  | map
  deriving DecidableEq, Repr

/-- Why a document was refused. -/
inductive DecodeError where
  | wrongType (found : Found) (expected : String)
  /-- An integer of the right type and out of range. -/
  | outOfRange (value : Int) (expected : String)
  | missingField (name : String)
  | duplicateField (name : String)
  /-- A record written as a sequence that ends before the required field at this position. -/
  | sequenceTooShort (position : Nat) (record : String) (fields : Nat)
  /-- A record written as a sequence with more items than the record has fields. -/
  | sequenceTooLong (length : Nat)
  | unknownName (name : String) (known : List String)
  /-- A map in the place of a word, and not of exactly one member. -/
  | notSingleMember
  /-- A document in none of the shapes of the named type. -/
  | noShape (type : String)
  | refused (cause : Invalid)
  | refusedUuid (cause : Uuid.Refusal)
  | refusedTimestamp (cause : Timestamp.Refusal)
  deriving DecidableEq, Repr

namespace Json

/-- The text of a double in JSON: positional with at least one fractional digit where the decimal
point falls within or near the shortest digits, and with an exponent otherwise. -/
def floatText (bits : UInt64) : String :=
  let sign := if bits.toNat < Decimal.capacity 63 then "" else "-"
  let body :=
    match Decimal.Binary.ofBits? (bits.toNat % Decimal.capacity 63) with
    | none => "0.0"
    | some b =>
      let d := Decimal.Scientific.reduced 400 b.shortest
      let digits := toString d.digits
      let zeros (n : Int) := String.ofList (List.replicate n.toNat '0')
      let point : Int := d.exponent + digits.length
      if 0 ≤ d.exponent ∧ point ≤ 16 then digits ++ zeros d.exponent ++ ".0"
      else if 0 < point ∧ point ≤ 16 then
        String.ofList (digits.toList.take point.toNat) ++ "." ++
          String.ofList (digits.toList.drop point.toNat)
      else if -5 < point ∧ point ≤ 0 then "0." ++ zeros (-point) ++ digits
      else
        let exponent := point - 1
        let mark := if exponent < 0 then "e-" else "e+"
        let fraction := String.ofList (digits.toList.drop 1)
        String.ofList (digits.toList.take 1) ++
          (if fraction.isEmpty then "" else "." ++ fraction) ++ mark ++ toString exponent.natAbs
  sign ++ body

/-- How a document is named where something else was expected. -/
def found : Json → Found
  | .null => .null
  | .bool b => .bool b
  | .int n => .int n
  | .float bits => .float bits
  | .str text => .text text
  | .arr _ => .sequence
  | .obj _ => .map

end Json

/-- The wording of what was found. -/
def Found.message : Found → String
  | .null => "null"
  | .bool b => s!"boolean `{b}`"
  | .int n => s!"integer `{n}`"
  | .float bits => s!"floating point `{Json.floatText bits}`"
  | .text value => s!"string {Text.quoted value}"
  | .sequence => "sequence"
  | .map => "map"

/-- The wording of a choice between names. -/
def oneOfMessage (names : List String) : String :=
  match names.map fun name => s!"`{name}`" with
  | [] => "there are no variants"
  | [only] => s!"expected {only}"
  | [first, second] => s!"expected {first} or {second}"
  | quoted => "expected one of " ++ ", ".intercalate quoted

/-- The wording of a refusal. -/
def DecodeError.message : DecodeError → String
  | .wrongType found expected => s!"invalid type: {found.message}, expected {expected}"
  | .outOfRange value expected => s!"invalid value: integer `{value}`, expected {expected}"
  | .missingField name => s!"missing field `{name}`"
  | .duplicateField name => s!"duplicate field `{name}`"
  | .sequenceTooShort position record fields =>
    s!"invalid length {position}, expected struct {record} with {fields} element" ++
      (if fields = 1 then "" else "s")
  | .sequenceTooLong length => s!"invalid length {length}, expected fewer elements in array"
  | .unknownName name known => s!"unknown variant `{name}`, {oneOfMessage known}"
  | .notSingleMember => "invalid value: map, expected map with a single key"
  | .noShape type => s!"data did not match any variant of untagged enum {type}"
  | .refused cause => s!"validation error: {cause.message}"
  | .refusedUuid cause => s!"UUID parsing failed: {cause.message}"
  | .refusedTimestamp cause => cause.message

/-- Takes a document apart into a value. -/
abbrev Decoder (α : Type) := Json → Except DecodeError α

namespace Decoder

variable {α β κ : Type}

/-- Any document, as it is. -/
def any : Decoder Json := .ok

/-- A text. -/
def text : Decoder String
  | .str text => .ok text
  | other => .error (.wrongType other.found "a string")

/-- A boolean. -/
def bool : Decoder Bool
  | .bool b => .ok b
  | other => .error (.wrongType other.found "a boolean")

/-- A natural number that so many bits can hold. -/
def natural (bits : Nat) : Decoder Nat
  | .int n =>
    if 0 ≤ n ∧ n < Decimal.capacity bits then .ok n.toNat else .error (.outOfRange n s!"u{bits}")
  | other => .error (.wrongType other.found s!"u{bits}")

/-- A text that `read` accepts. -/
def parsed {ε : Type} (read : String → Except ε α) (cause : ε → DecodeError) : Decoder α :=
  fun document => do
    match read (← text document) with
    | .ok value => return value
    | .error error => throw (cause error)

/-- A name. -/
def shortname : Decoder Shortname := parsed Shortname.parse .refused

/-- An identifier. -/
def uuid : Decoder Uuid
  | .str value =>
    match Uuid.parse value with
    | .ok u => .ok u
    | .error cause => .error (.refusedUuid cause)
  | other => .error (.wrongType other.found "a formatted UUID string")

/-- A point in time. -/
def timestamp : Decoder Timestamp
  | .str value =>
    match Timestamp.parse value with
    | .ok t => .ok t
    | .error cause => .error (.refusedTimestamp cause)
  | other => .error (.wrongType other.found "an RFC 3339 formatted date and time string")

/-- Nothing, written as null, or something. -/
def optional (item : Decoder α) : Decoder (Option α)
  | .null => .ok none
  | document => (item document).map some

/-- A sequence; its items are decoded in order. -/
def list (item : Decoder α) : Decoder (List α)
  | .arr items => items.mapM item
  | other => .error (.wrongType other.found "a sequence")

/-- A sequence read as a set. -/
def bag [Ord α] [Std.TransOrd α] (item : Decoder α) : Decoder (Bag α) :=
  fun document => (list item document).map (Std.ExtTreeSet.ofList ·)

/-- The members of a map, each name read by `key`.  The name comes before its value. -/
def pairs (key : String → Except DecodeError κ) (value : Decoder α) :
    List (String × Json) → Except DecodeError (List (κ × α))
  | [] => .ok []
  | (name, document) :: rest => do
    let k ← key name
    let v ← value document
    let more ← pairs key value rest
    return (k, v) :: more

/-- A map; of equal keys the last wins. -/
def dict [Ord κ] [Std.TransOrd κ] (key : String → Except DecodeError κ) (value : Decoder α) :
    Decoder (Dict κ α)
  | .obj members => (pairs key value members).map (Std.ExtTreeMap.ofList ·)
  | other => .error (.wrongType other.found "a map")

/-- The word of a vocabulary, from its spelling. -/
def wordOf [Vocabulary α] (name : String) : Except DecodeError α :=
  match Vocabulary.ofName? name with
  | some word => .ok word
  | none => .error (.unknownName name (Vocabulary.names α))

/-- A word of a vocabulary: its spelling, or a map of that one name to null. -/
def word [Vocabulary α] : Decoder α
  | .str name => wordOf name
  | .obj [(name, content)] => do
    let word ← wordOf name
    match content with
    | .null => return word
    | other => throw (.wrongType other.found "unit")
  | .obj _ => .error .notSingleMember
  | other => .error (.wrongType other.found "string or map")

end Decoder

/-- Where the fields of a record stand: under their names, or one after the other. -/
inductive Layout where
  | named (members : List (String × Json))
  | listed (record : String) (fields : Nat) (items : List Json)

/-- A description of a record: for each field its name and what is wrong with a document in its
place, and how the record is put together, the fields being numbered from a first position. -/
structure Fields (α : Type) where
  checks : List (String × (Json → Except DecodeError Unit))
  build : (first : Nat) → Layout → Except DecodeError α

namespace Fields

variable {α β : Type}

/-- No fields. -/
def done (value : α) : Fields α := ⟨[], fun _ _ => .ok value⟩

/-- A description with one field more, which the last value is applied to. -/
def apply (function : Fields (α → β)) (argument : Fields α) : Fields β where
  checks := function.checks ++ argument.checks
  build first layout := do
    let f ← function.build first layout
    let x ← argument.build (first + function.checks.length) layout
    return f x

instance : Functor Fields where
  map f fields := ⟨fields.checks, fun first layout => (fields.build first layout).map f⟩

instance : Seq Fields where
  seq function argument := function.apply (argument ())

/-- One field, and the value that stands for it when it is absent: from a map, and from the end of
a sequence. -/
def field (name : String) (item : Decoder α) (unnamed unlisted : Option α) : Fields α where
  checks := [(name, fun document => (item document).map fun _ => ())]
  build position
    | .named members =>
      match members.lookup name, unnamed with
      | some document, _ => item document
      | none, some value => .ok value
      | none, none => .error (.missingField name)
    | .listed record fields items =>
      match items[position]?, unlisted with
      | some document, _ => item document
      | none, some value => .ok value
      | none, none => .error (.sequenceTooShort position record fields)

/-- A field that may not be absent. -/
def required (name : String) (item : Decoder α) : Fields α := field name item none none

/-- A field with a value for its absence. -/
def withDefault (name : String) (item : Decoder α) (value : α) : Fields α :=
  field name item (some value) (some value)

/-- A field that may be null, and absent from a map but not from a sequence. -/
def nullable (name : String) (item : Decoder α) : Fields (Option α) :=
  field name (Decoder.optional item) (some none) none

/-- Checks the members of a map in order: the ones that are fields, each at most once. -/
def checkMembers (checks : List (String × (Json → Except DecodeError Unit))) :
    (seen : List String) → List (String × Json) → Except DecodeError Unit
  | _, [] => .ok ()
  | seen, (name, document) :: rest => do
    match checks.lookup name with
    | none => checkMembers checks seen rest
    | some check =>
      if seen.contains name then throw (.duplicateField name)
      check document
      checkMembers checks (name :: seen) rest

/-- The decoder of the described record. -/
def decoder (record : String) (fields : Fields α) : Decoder α
  | .obj members => do
    checkMembers fields.checks [] members
    fields.build 0 (.named members)
  | .arr items => do
    let value ← fields.build 0 (.listed record fields.checks.length items)
    if fields.checks.length < items.length then throw (.sequenceTooLong items.length)
    return value
  | other => .error (.wrongType other.found s!"struct {record}")

end Fields

end AccessControl
