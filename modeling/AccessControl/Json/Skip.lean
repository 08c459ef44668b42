import AccessControl.Json.Escape
import AccessControl.Json.Numeral

/-!
# Documents that are passed over

Content that nobody asked for is passed over without being read: it may nest as deep as it likes,
its numbers may be beyond every range, and the codes in its texts need not name characters.  Only
brackets, separators, words and the form of numbers and escapes are looked at.
-/

namespace AccessControl.Json

/-- Passes over the rest of an escape, behind its backslash. -/
def skipEscape (cursor : Cursor) : Except Fault Cursor :=
  match cursor.next? with
  | none => cursor.fail .endOfString
  | some ('u', behind) => (readHex behind).map Prod.snd
  | some (c, behind) =>
    if ['"', '\\', '/', 'b', 'f', 'n', 'r', 't'].contains c then .ok behind
    else cursor.failAhead .invalidEscape

/-- Passes over the rest of a text, behind its opening quote; `fuel` bounds its length. -/
def skipString : (fuel : Nat) → Cursor → Except Fault Cursor
  | 0, cursor => cursor.fail .endOfString
  | fuel + 1, cursor =>
    match cursor.next? with
    | none => cursor.fail .endOfString
    | some (c, behind) =>
      if c = '"' then .ok behind
      else if c = '\\' then do
        let behind ← skipEscape behind
        skipString fuel behind
      else if c.toNat < 0x20 then cursor.fail .controlCharacter
      else skipString fuel behind

/-- Passes over one digit or more. -/
def skipDigits (cursor : Cursor) : Except Fault Cursor :=
  let (digits, behind) := digitsAhead cursor
  if digits.isEmpty then cursor.failAhead .invalidNumber else .ok behind

/-- Passes over an exponent, if there is one. -/
def skipExponent (cursor : Cursor) : Except Fault Cursor :=
  match cursor.next? with
  | some (mark, behind) =>
    if mark = 'e' ∨ mark = 'E' then
      match behind.next? with
      | some ('+', unsigned) => skipDigits unsigned
      | some ('-', unsigned) => skipDigits unsigned
      | _ => skipDigits behind
    else .ok cursor
  | none => .ok cursor

/-- Passes over a number, behind its sign. -/
def skipNumber (cursor : Cursor) : Except Fault Cursor := do
  let behind ← skipDigits cursor
  if (cursor.rest.head? == some '0') && cursor.offset + 1 < behind.offset then
    .error (.placed .invalidNumber (cursor.offset + 2))
  else
    match behind.next? with
    | some ('.', fraction) => skipExponent (← skipDigits fraction)
    | _ => skipExponent behind

/-- Passes over a null, a boolean, a number or a text. -/
def skipScalar (cursor : Cursor) : Except Fault Cursor :=
  match cursor.next? with
  | none => cursor.failAhead .endOfValue
  | some (c, behind) =>
    match c with
    | 'n' => (readWord ['u', 'l', 'l'] behind).map Prod.snd
    | 't' => (readWord ['r', 'u', 'e'] behind).map Prod.snd
    | 'f' => (readWord ['a', 'l', 's', 'e'] behind).map Prod.snd
    | '-' => skipNumber behind
    | '"' => skipString cursor.rest.length behind
    | _ => if c.isDigit then skipNumber cursor else cursor.failAhead .expectedValue

/-- What a document that is passed over stands in. -/
inductive Enclosure where
  | list
  | map
  deriving DecidableEq, Repr

namespace Enclosure

/-- The character that ends it. -/
def closing : Enclosure → Char
  | .list => ']'
  | .map => '\x7d'

/-- The fault of a text that ends in it. -/
def unended : Enclosure → TextFault
  | .list => .endOfList
  | .map => .endOfMap

/-- The fault of something else where it ends or goes on. -/
def unseparated : Enclosure → TextFault
  | .list => .expectedListEnd
  | .map => .expectedMapEnd

end Enclosure

/-- Passes over the name of a member and the colon behind it. -/
def skipName (cursor : Cursor) : Except Fault Cursor := do
  let cursor := cursor.skipSpace
  match cursor.next? with
  | none => cursor.failAhead .endOfMap
  | some ('"', inside) =>
    let cursor := (← skipString cursor.rest.length inside).skipSpace
    match cursor.next? with
    | none => cursor.failAhead .endOfMap
    | some (':', behind) => return behind
    | some _ => cursor.failAhead .expectedColon
  | some _ => cursor.failAhead .nameNotText

/-- Passes over what stands between the start of a list or map, or a comma in it, and the next
document in it. -/
def Enclosure.enter : Enclosure → Cursor → Except Fault Cursor
  | .list, cursor => .ok cursor
  | .map, cursor => skipName cursor

/-- How far the passing over has come in what surrounds it. -/
inductive SkipStage where
  /-- In front of a document. -/
  | ahead
  /-- Behind the start of a list or map. -/
  | opened
  /-- Behind a document. -/
  | passed
  deriving DecidableEq, Repr

/-- Passes over documents until nothing surrounds them any more; `around` is what does, the
innermost first, and `fuel` bounds the number of steps. -/
def skipWithin : (fuel : Nat) → SkipStage → (around : List Enclosure) → Cursor → Except Fault Cursor
  | 0, _, _, cursor => cursor.failAhead .endOfValue
  | fuel + 1, .ahead, around, cursor => do
    let cursor := cursor.skipSpace
    match cursor.next? with
    | some ('[', inside) => skipWithin fuel .opened (.list :: around) inside
    | some ('\x7b', inside) => skipWithin fuel .opened (.map :: around) inside
    | _ => skipWithin fuel .passed around (← skipScalar cursor)
  | _ + 1, _, [], cursor => .ok cursor
  | fuel + 1, stage, enclosure :: around, cursor => do
    let cursor := cursor.skipSpace
    match cursor.next? with
    | none => cursor.failAhead enclosure.unended
    | some (c, behind) =>
      if c = enclosure.closing then skipWithin fuel .passed around behind
      else if stage = .opened then
        skipWithin fuel .ahead (enclosure :: around) (← enclosure.enter cursor)
      else if c = ',' then
        skipWithin fuel .ahead (enclosure :: around) (← enclosure.enter behind)
      else cursor.failAhead enclosure.unseparated

/-- Passes over a document. -/
def skipDocument (cursor : Cursor) : Except Fault Cursor :=
  skipWithin (3 * cursor.rest.length + 3) .ahead [] cursor

end AccessControl.Json
