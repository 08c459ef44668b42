import AccessControl.Json.Skip

/-!
# Reading documents from text

A text is read against a `Shape`, from left to right, and the first thing that is wrong with it is
reported with its line and column: a fault of the text itself, or content that the shape does not
allow.

The shape `any` allows every document.  Wherever content is refused after it was passed over, the
fault stands behind it; content that cannot start what the shape wants is refused where it starts.
-/

namespace AccessControl.Json

/-- What a text is read as. -/
inductive Shape where
  | any
  | text
  | list (item : Shape)
  /-- A map; `key` says what is wrong with a name. -/
  | dict (key : String → Option DecodeError) (value : Shape)
  /-- One of some words. -/
  | word (names : List String)
  /-- A record all of whose fields are required. -/
  | record (name : String) (fields : List (String × Shape))
  /-- Any document that `check` finds nothing wrong with. -/
  | checked (check : Json → Option DecodeError)

/-- Reads a null, a boolean, a number or a text that starts with the given character. -/
def readScalar (fuel : Nat) (cursor : Cursor) : Except Fault (Json × Cursor) :=
  match cursor.next? with
  | none => cursor.failAhead .endOfValue
  | some (c, behind) =>
    match c with
    | 'n' => (readWord ['u', 'l', 'l'] behind).map fun result => (.null, result.2)
    | 't' => (readWord ['r', 'u', 'e'] behind).map fun result => (.bool true, result.2)
    | 'f' => (readWord ['a', 'l', 's', 'e'] behind).map fun result => (.bool false, result.2)
    | '-' => readNumber true behind
    | '"' => (readString fuel [] behind).map fun result => (.str result.1, result.2)
    | _ => if c.isDigit then readNumber false cursor else cursor.failAhead .expectedValue

/-- Refuses what stands here in the place of what is expected: a list or a map where it starts, and
anything else behind it. -/
def refuse {α : Type} (fuel : Nat) (expected : String) (cursor : Cursor) : Except Fault α :=
  match cursor.next? with
  | some ('[', _) => cursor.fail (.content (.wrongType .sequence expected))
  | some ('\x7b', _) => cursor.fail (.content (.wrongType .map expected))
  | _ => do
    let (value, behind) ← readScalar fuel cursor
    behind.fail (.content (.wrongType value.found expected))

/-- Whether another item follows in a list: behind the comma if it does, behind the bracket if
not. -/
def nextItem? (first : Bool) (cursor : Cursor) : Except Fault (Bool × Cursor) :=
  let cursor := cursor.skipSpace
  match cursor.next? with
  | none => cursor.failAhead .endOfList
  | some (']', behind) => .ok (false, behind)
  | some (c, behind) =>
    if first then .ok (true, cursor)
    else if c = ',' then
      let cursor := behind.skipSpace
      match cursor.next? with
      | none => cursor.failAhead .endOfValue
      | some (']', _) => cursor.failAhead .trailingComma
      | some _ => .ok (true, cursor)
    else cursor.failAhead .expectedListEnd

/-- Whether another member follows in a map: at its name if it does, behind the brace if not. -/
def nextMember? (first : Bool) (cursor : Cursor) : Except Fault (Bool × Cursor) :=
  let cursor := cursor.skipSpace
  match cursor.next? with
  | none => cursor.failAhead .endOfMap
  | some ('\x7d', behind) => .ok (false, behind)
  | some (c, behind) =>
    if first then
      if c = '"' then .ok (true, cursor) else cursor.failAhead .nameNotText
    else if c = ',' then
      let cursor := behind.skipSpace
      match cursor.next? with
      | none => cursor.failAhead .endOfValue
      | some ('"', _) => .ok (true, cursor)
      | some ('\x7d', _) => cursor.failAhead .trailingComma
      | some _ => cursor.failAhead .nameNotText
    else cursor.failAhead .expectedMapEnd

/-- Reads the colon behind a name. -/
def readColon (cursor : Cursor) : Except Fault Cursor :=
  let cursor := cursor.skipSpace
  match cursor.next? with
  | none => cursor.failAhead .endOfMap
  | some (c, behind) => if c = ':' then .ok behind else cursor.failAhead .expectedColon

/-- Reads a word that must be one of the names, behind its opening quote. -/
def readName (fuel : Nat) (names : List String) (cursor : Cursor) :
    Except Fault (String × Cursor) := do
  let (name, behind) ← readString fuel [] cursor
  if names.contains name then return (name, behind)
  else behind.fail (.content (.unknownName name names))

/-- Reads the name of the one member that a map has which stands for a word. -/
def readChoiceName (fuel : Nat) (names : List String) (cursor : Cursor) :
    Except Fault (String × Cursor) :=
  match cursor.next? with
  | none => cursor.failAhead .endOfValue
  | some ('"', inside) => readName fuel names inside
  | some ('\x7d', _) => cursor.failAhead .expectedValue
  | some _ => cursor.failAhead .nameNotText

/-- Reads a word: a text, or a map of that one name to null. -/
def readChoice (fuel depth : Nat) (names : List String) (cursor : Cursor) :
    Except Fault (Json × Cursor) :=
  match cursor.next? with
  | none => cursor.failAhead .endOfValue
  | some ('"', inside) => do
    let (name, behind) ← readName fuel names inside
    return (.str name, behind)
  | some ('\x7b', inside) =>
    if depth ≤ 1 then cursor.failAhead .tooDeep
    else do
      let (name, behind) ← readChoiceName fuel names inside.skipSpace
      let behind ← readColon behind
      let content := behind.skipSpace
      let behind ←
        match content.next? with
        | none => content.failAhead .endOfValue
        | some ('n', inside) => (readWord ['u', 'l', 'l'] inside).map Prod.snd
        | some _ => refuse fuel "unit" content
      let behind := behind.skipSpace
      match behind.next? with
      | none => behind.fail .endOfMap
      | some (c, after) => if c = '\x7d' then .ok (.str name, after) else behind.fail .expectedValue
  | some _ => cursor.failAhead .expectedValue

/-- How the members of a map are read: by a check of their names and one shape for all, or as the
fields of a record. -/
inductive Members where
  | all (key : String → Option DecodeError) (value : Shape)
  | fields (known : List (String × Shape))

/-- What is wrong with a name, given the names seen so far, or the shape of its value; none if the
value is to be passed over. -/
def Members.receive (members : Members) (seen : List String) (name : String) :
    Except DecodeError (Option Shape) :=
  match members with
  | .all key value =>
    match key name with
    | some cause => .error cause
    | none => .ok (some value)
  | .fields known =>
    match known.lookup name with
    | none => .ok none
    | some shape => if seen.contains name then .error (.duplicateField name) else .ok (some shape)

/-- The first field that was not seen. -/
def Members.missing? (members : Members) (seen : List String) : Option DecodeError :=
  match members with
  | .all _ _ => none
  | .fields known =>
    (known.find? fun field => !seen.contains field.1).map fun field => .missingField field.1

mutual

/-- Reads a document of the given shape; `depth` bounds how deep it may still nest, and `fuel` the
number of steps. -/
def readShape : (fuel depth : Nat) → Shape → Read Json
  | 0, _, _, cursor => cursor.failAhead .endOfValue
  | fuel + 1, depth, shape, cursor =>
    let cursor := cursor.skipSpace
    match cursor.next? with
    | none => cursor.failAhead .endOfValue
    | some (c, inside) =>
      let nested (read : Except Fault (Json × Cursor)) : Except Fault (Json × Cursor) :=
        if depth ≤ 1 then cursor.failAhead .tooDeep else read
      match shape with
      | .any =>
        if c = '[' then nested (readItems fuel (depth - 1) .any true [] inside)
        else if c = '\x7b' then
          nested (readMembers fuel (depth - 1) (.all (fun _ => none) .any) true [] inside)
        else readScalar cursor.rest.length cursor
      | .text =>
        if c = '"' then readScalar cursor.rest.length cursor
        else refuse cursor.rest.length "a string" cursor
      | .list item =>
        if c = '[' then nested (readItems fuel (depth - 1) item true [] inside)
        else refuse cursor.rest.length "a sequence" cursor
      | .dict key value =>
        if c = '\x7b' then nested (readMembers fuel (depth - 1) (.all key value) true [] inside)
        else refuse cursor.rest.length "a map" cursor
      | .word names => readChoice cursor.rest.length depth names cursor
      | .record name fields =>
        if c = '\x7b' then nested (readMembers fuel (depth - 1) (.fields fields) true [] inside)
        else if c = '[' then
          nested (readListed fuel (depth - 1) name fields.length fields 0 [] inside)
        else refuse cursor.rest.length s!"struct {name}" cursor
      | .checked check => do
        let (document, behind) ← readShape fuel depth .any cursor
        match check document.normal with
        | some cause => .error (.pending cause behind)
        | none => .ok (document.normal, behind)

/-- Reads the items of a list up to its bracket. -/
def readItems : (fuel depth : Nat) → Shape → (first : Bool) → (reversed : List Json) → Read Json
  | 0, _, _, _, _, cursor => cursor.failAhead .endOfList
  | fuel + 1, depth, shape, first, reversed, cursor => do
    let (more, cursor) ← nextItem? first cursor
    if more then
      let (item, cursor) ← settle Cursor.afterItem (readShape fuel depth shape cursor)
      readItems fuel depth shape false (item :: reversed) cursor
    else return (.arr reversed.reverse, cursor)

/-- Reads the members of a map up to its brace.  Members that were passed over are left out. -/
def readMembers : (fuel depth : Nat) → Members → (first : Bool) →
    (reversed : List (String × Json)) → Read Json
  | 0, _, _, _, _, cursor => cursor.failAhead .endOfMap
  | fuel + 1, depth, members, first, reversed, cursor => do
    let (more, cursor) ← nextMember? first cursor
    if more then
      let (name, cursor) ← readString cursor.rest.length [] ⟨cursor.rest.tail, cursor.offset + 1⟩
      match members.receive (reversed.map Prod.fst) name with
      | .error cause => settle Cursor.afterMember (.error (.pending cause cursor))
      | .ok none =>
        let cursor ← skipDocument (← readColon cursor)
        readMembers fuel depth members false reversed cursor
      | .ok (some shape) =>
        let cursor ← readColon cursor
        let (value, cursor) ← settle Cursor.afterMember (readShape fuel depth shape cursor)
        readMembers fuel depth members false ((name, value) :: reversed) cursor
    else
      match members.missing? (reversed.map Prod.fst) with
      | some cause => cursor.fail (.content cause)
      | none => return (.obj reversed.reverse, cursor)

/-- Reads a record written as a list of its fields, up to its bracket. -/
def readListed : (fuel depth : Nat) → (record : String) → (size : Nat) →
    List (String × Shape) → (position : Nat) → (reversed : List Json) → Read Json
  | 0, _, _, _, _, _, _, cursor => cursor.failAhead .endOfList
  | fuel + 1, depth, record, size, fields, position, reversed, cursor => do
    match fields with
    | [] =>
      let cursor := cursor.skipSpace
      match cursor.next? with
      | none => cursor.failAhead .endOfList
      | some (']', behind) => return (.arr reversed.reverse, behind)
      | some (',', behind) =>
        let behind := behind.skipSpace
        behind.failAhead (if behind.rest.head? = some ']' then .trailingComma else .trailingText)
      | some _ => cursor.failAhead .trailingText
    | (_, shape) :: more =>
      let (another, cursor) ← nextItem? (position == 0) cursor
      if another then
        let (item, cursor) ← settle Cursor.afterItem (readShape fuel depth shape cursor)
        readListed fuel depth record size more (position + 1) (item :: reversed) cursor
      else cursor.fail (.content (.sequenceTooShort position record size))

end

/-- How deep a document may nest, its outermost list or map counted, is one less than this. -/
def depthLimit : Nat := 128

/-- Reads a whole text against a shape.  The members of maps keep the order of the text, repeated
names included, except in what was checked as a whole, which is in normal form. -/
def readAs (shape : Shape) (text : String) : Except ReadError Json :=
  let chars := text.toList
  let start : Cursor := ⟨chars, 0⟩
  let result : Except Fault Json := do
    let (document, cursor) ←
      settle Cursor.offset (readShape (2 * chars.length + 2) depthLimit shape start)
    let cursor := cursor.skipSpace
    if cursor.rest.isEmpty then return document else cursor.failAhead .trailingText
  match result with
  | .ok document => .ok document
  | .error (.placed fault offset) =>
    let (line, column) := place chars offset
    .error ⟨fault, line, column⟩
  | .error (.pending cause cursor) =>
    let (line, column) := place chars cursor.offset
    .error ⟨.content cause, line, column⟩

/-- Reads a document from text; of members with one name the last counts. -/
def read (text : String) : Except ReadError Json :=
  (readAs .any text).map normal

end AccessControl.Json
