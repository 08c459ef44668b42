import AccessControl.Json.Decode

/-!
# Cursors

Where a reader stands in the text of a document, and what may be wrong with the text there.  Lines
count from 1 and columns count UTF-8 bytes.  A fault stands behind what was read, or one byte on
when the next character is the wrong one.
-/

namespace AccessControl.Json

/-- A fault of a text. -/
inductive TextFault where
  | endOfList | endOfMap | endOfString | endOfValue
  | expectedColon | expectedListEnd | expectedMapEnd | expectedWord | expectedValue
  | invalidEscape | invalidNumber | numberOutOfRange | controlCharacter
  | nameNotText | loneSurrogate | endOfEscape | trailingComma | trailingText | tooDeep
  /-- Content that the shape does not allow. -/
  | content (cause : DecodeError)
  deriving DecidableEq, Repr

/-- The wording of a fault. -/
def TextFault.message : TextFault → String
  | .endOfList => "EOF while parsing a list"
  | .endOfMap => "EOF while parsing an object"
  | .endOfString => "EOF while parsing a string"
  | .endOfValue => "EOF while parsing a value"
  | .expectedColon => "expected `:`"
  | .expectedListEnd => "expected `,` or `]`"
  | .expectedMapEnd => "expected `,` or `\x7d`"
  | .expectedWord => "expected ident"
  | .expectedValue => "expected value"
  | .invalidEscape => "invalid escape"
  | .invalidNumber => "invalid number"
  | .numberOutOfRange => "number out of range"
  | .controlCharacter =>
    "control character (\\u0000-\\u001F) found while parsing a string"
  | .nameNotText => "key must be a string"
  | .loneSurrogate => "lone leading surrogate in hex escape"
  | .endOfEscape => "unexpected end of hex escape"
  | .trailingComma => "trailing comma"
  | .trailingText => "trailing characters"
  | .tooDeep => "recursion limit exceeded"
  | .content cause => cause.message

/-- A fault and its place in the text. -/
structure ReadError where
  fault : TextFault
  line : Nat
  column : Nat
  deriving DecidableEq, Repr

/-- The wording of a fault with its place. -/
def ReadError.message (e : ReadError) : String :=
  s!"{e.fault.message} at line {e.line} column {e.column}"

/-- The text that is still to be read, and the number of bytes before it. -/
structure Cursor where
  rest : List Char
  offset : Nat

/-- A fault at a byte offset, or content whose refusal takes its place from the end of the list or
map around it. -/
inductive Fault where
  | placed (fault : TextFault) (offset : Nat)
  | pending (cause : DecodeError) (cursor : Cursor)

/-- A step of reading. -/
abbrev Read (α : Type) := Cursor → Except Fault (α × Cursor)

namespace Cursor

/-- Whether the character may stand between the parts of a document. -/
def isSpace (c : Char) : Bool :=
  c = ' ' || c = '\n' || c = '\t' || c = '\r'

/-- Passes over one character. -/
def next? (cursor : Cursor) : Option (Char × Cursor) :=
  match cursor.rest with
  | [] => none
  | c :: rest => some (c, ⟨rest, cursor.offset + c.utf8Size⟩)

/-- Passes over spaces. -/
def skipSpace (cursor : Cursor) : Cursor :=
  ⟨cursor.rest.dropWhile isSpace,
    cursor.offset + (cursor.rest.takeWhile isSpace).length⟩

/-- Where a fault stands whose next character is the wrong one: one byte on, unless the text ends
here. -/
def ahead (cursor : Cursor) : Nat :=
  if cursor.rest.isEmpty then cursor.offset else cursor.offset + 1

/-- A fault behind what was read. -/
def fail {α : Type} (cursor : Cursor) (fault : TextFault) : Except Fault α :=
  .error (.placed fault cursor.offset)

/-- A fault at the next character. -/
def failAhead {α : Type} (cursor : Cursor) (fault : TextFault) : Except Fault α :=
  .error (.placed fault cursor.ahead)

/-- Where the place of a pending refusal in a list is: behind the bracket or comma that follows. -/
def afterItem (cursor : Cursor) : Nat :=
  let cursor := cursor.skipSpace
  match cursor.next? with
  | some (']', behind) => behind.offset
  | some (',', behind) => behind.skipSpace.offset
  | _ => cursor.offset

/-- Where the place of a pending refusal in a map is: behind the brace that follows, if one
does. -/
def afterMember (cursor : Cursor) : Nat :=
  let cursor := cursor.skipSpace
  match cursor.next? with
  | some ('\x7d', behind) => behind.offset
  | _ => cursor.offset

end Cursor

/-- Gives a pending refusal its place. -/
def settle {α : Type} (place : Cursor → Nat) : Except Fault α → Except Fault α
  | .error (.pending cause cursor) => .error (.placed (.content cause) (place cursor))
  | result => result

/-- Reads the rest of a word such as `null`. -/
def readWord : List Char → Read Unit
  | [], cursor => .ok ((), cursor)
  | expected :: more, cursor =>
    match cursor.next? with
    | none => cursor.fail .endOfValue
    | some (c, behind) =>
      if c = expected then readWord more behind else cursor.failAhead .expectedWord

/-- The line and column of a byte offset. -/
def place (text : List Char) (offset : Nat) : Nat × Nat :=
  let rec walk : (line column left : Nat) → List Char → Nat × Nat
    | line, column, 0, _ => (line, column)
    | line, column, left, [] => (line, column + left)
    | line, column, left, c :: rest =>
      if left < c.utf8Size then (line, column + left)
      else if c = '\n' then walk (line + 1) 0 (left - 1) rest
      else walk line (column + c.utf8Size) (left - c.utf8Size) rest
  walk 1 0 offset text

end AccessControl.Json
