import AccessControl.Json.Cursor

/-!
# Texts in documents

A text stands between quotes.  A backslash starts an escape, which gives a character by a letter or
by its code in four hexadecimal digits; a character beyond the first 65536 takes two such codes.
-/

namespace AccessControl.Json

/-- Reads four hexadecimal digits.  Where fewer than four bytes are left, the text has ended. -/
def readHex (cursor : Cursor) : Except Fault (Nat × Cursor) :=
  let digits := cursor.rest.take 4
  let size := (String.ofList digits).utf8ByteSize
  if size < 4 then .error (.placed .endOfString (cursor.offset + size))
  else
    let behind : Cursor := ⟨cursor.rest.drop 4, cursor.offset + 4⟩
    match Uuid.readDigits digits with
    | some values => .ok (values.foldl (fun n d => 16 * n + d.val) 0, behind)
    | none => behind.fail .invalidEscape

/-- Reads the rest of an escape that gives a character by its code, or by two codes. -/
def readCode (cursor : Cursor) : Except Fault (Char × Cursor) := do
  let (high, cursor) ← readHex cursor
  if 0xDC00 ≤ high ∧ high ≤ 0xDFFF then cursor.fail .loneSurrogate
  else if high < 0xD800 ∨ 0xDBFF < high then return (Char.ofNat high, cursor)
  else
    let step (expected : Char) (cursor : Cursor) : Except Fault Cursor :=
      match cursor.next? with
      | none => cursor.fail .endOfString
      | some (c, behind) =>
        if c = expected then .ok behind else cursor.failAhead .endOfEscape
    let cursor ← step '\\' cursor
    let cursor ← step 'u' cursor
    let (low, cursor) ← readHex cursor
    if low < 0xDC00 ∨ 0xDFFF < low then cursor.fail .loneSurrogate
    else return (Char.ofNat (0x10000 + (high - 0xD800) * 0x400 + (low - 0xDC00)), cursor)

/-- Reads the rest of an escape, behind its backslash. -/
def readEscape (cursor : Cursor) : Except Fault (Char × Cursor) :=
  match cursor.next? with
  | none => cursor.fail .endOfString
  | some (c, behind) =>
    match c with
    | '"' => .ok ('"', behind)
    | '\\' => .ok ('\\', behind)
    | '/' => .ok ('/', behind)
    | 'b' => .ok ('\x08', behind)
    | 'f' => .ok ('\x0c', behind)
    | 'n' => .ok ('\n', behind)
    | 'r' => .ok ('\r', behind)
    | 't' => .ok ('\t', behind)
    | 'u' => readCode behind
    | _ => cursor.failAhead .invalidEscape

/-- Reads the rest of a text, behind its opening quote; `fuel` bounds its length. -/
def readString : (fuel : Nat) → (reversed : List Char) → Read String
  | 0, _, cursor => cursor.fail .endOfString
  | fuel + 1, reversed, cursor =>
    match cursor.next? with
    | none => cursor.fail .endOfString
    | some (c, behind) =>
      if c = '"' then .ok (String.ofList reversed.reverse, behind)
      else if c = '\\' then do
        let (c, behind) ← readEscape behind
        readString fuel (c :: reversed) behind
      else if c.toNat < 0x20 then behind.fail .controlCharacter
      else readString fuel (c :: reversed) behind

end AccessControl.Json
