import AccessControl.Json.Cursor

/-!
# Numbers in documents

A number has a sign, a whole part without leading zeros, and possibly a fraction and an exponent.
It is an integer if it has neither and is in the range of one, and a float otherwise.
-/

namespace AccessControl.Json

/-- Powers of ten as doubles. -/
def powerOfTen (exponent : Nat) : Float :=
  OfScientific.ofScientific 1 false exponent

/-- The double named by a significand and a power of ten: the nearest double to the significand,
multiplied or divided by the power, in steps when that is beyond the doubles. -/
def scaledFloat? : (fuel : Nat) → Float → Int → Option Float
  | 0, value, _ => some value
  | fuel + 1, value, exponent =>
    if exponent.natAbs ≤ 308 then
      if 0 ≤ exponent then
        let scaled := value * powerOfTen exponent.toNat
        if scaled.isInf then none else some scaled
      else some (value / powerOfTen exponent.natAbs)
    else if value == 0.0 then some value
    else if 0 ≤ exponent then none
    else scaledFloat? fuel (value / powerOfTen 308) (exponent + 308)

/-- The float named by a sign, a significand and a power of ten. -/
def floatOf (negative : Bool) (significand : Nat) (exponent : Int) (cursor : Cursor) :
    Except Fault (Json × Cursor) :=
  match scaledFloat? (exponent.natAbs / 308 + 2) (Float.ofNat significand) exponent with
  | some value => .ok (.float (if negative then -value else value).toBits, cursor)
  | none => cursor.fail .numberOutOfRange

/-- The digits at the start of the text, and what follows them. -/
def digitsAhead (cursor : Cursor) : List Char × Cursor :=
  let digits := cursor.rest.takeWhile Char.isDigit
  (digits, ⟨cursor.rest.drop digits.length, cursor.offset + digits.length⟩)

/-- Appends digits to a significand as long as 64 bits can hold it; also the digits for which
there was no room. -/
def absorbDigits : (significand : Nat) → List Char → Nat × List Char
  | significand, [] => (significand, [])
  | significand, c :: rest =>
    let grown := 10 * significand + (c.toNat - '0'.toNat)
    if grown < Decimal.capacity 64 then absorbDigits grown rest else (significand, c :: rest)

/-- Reads an exponent, behind its mark. -/
def readExponent (negative : Bool) (significand : Nat) (start : Int) (cursor : Cursor) :
    Except Fault (Json × Cursor) := do
  let (down, cursor) :=
    match cursor.next? with
    | some ('+', behind) => (false, behind)
    | some ('-', behind) => (true, behind)
    | _ => (false, cursor)
  match cursor.next? with
  | none => cursor.fail .endOfValue
  | some (c, _) =>
    if !c.isDigit then cursor.failAhead .invalidNumber
    else
      let (digits, behind) := digitsAhead cursor
      let exponent := digits.foldl (fun n d => 10 * n + (d.toNat - '0'.toNat)) 0
      if Decimal.capacity 31 ≤ exponent then
        if significand ≠ 0 ∧ !down then
          let kept := (List.range (digits.length + 1)).find? fun count =>
            Decimal.capacity 31 ≤ (digits.take count).foldl (fun n d => 10 * n + (d.toNat - '0'.toNat)) 0
          .error (.placed .numberOutOfRange (cursor.offset + kept.getD 0))
        else floatOf negative 0 0 behind
      else
        let signed : Int := if down then -(exponent : Int) else exponent
        floatOf negative significand (start + signed) behind

/-- Reads what may follow the whole part of a number that is a float. -/
def readTail (negative : Bool) (significand : Nat) (start : Int) (cursor : Cursor) :
    Except Fault (Json × Cursor) :=
  match cursor.next? with
  | some ('e', behind) => readExponent negative significand start behind
  | some ('E', behind) => readExponent negative significand start behind
  | _ => floatOf negative significand start cursor

/-- Reads the fractional part of a number, behind its point. -/
def readFraction (negative : Bool) (significand : Nat) (start : Int) (cursor : Cursor) :
    Except Fault (Json × Cursor) :=
  let (digits, behind) := digitsAhead cursor
  if digits.isEmpty then
    if cursor.rest.isEmpty then cursor.failAhead .endOfValue
    else cursor.failAhead .invalidNumber
  else
    let (significand, dropped) := absorbDigits significand digits
    let used : Int := (digits.length - dropped.length : Nat)
    readTail negative significand (start - used) behind

/-- Reads a number, behind its sign.  Without a point and an exponent it is an integer if it is in
the range of one. -/
def readNumber (negative : Bool) (cursor : Cursor) : Except Fault (Json × Cursor) :=
  match cursor.next? with
  | none => cursor.fail .endOfValue
  | some (c, first) =>
    if !c.isDigit then cursor.failAhead .invalidNumber
    else if c = '0' ∧ (first.rest.head?.map Char.isDigit).getD false then
      first.failAhead .invalidNumber
    else
      let (digits, behind) := digitsAhead cursor
      let (significand, dropped) := absorbDigits 0 digits
      match behind.next? with
      | some ('.', afterPoint) => readFraction negative significand dropped.length afterPoint
      | some ('e', afterMark) => readExponent negative significand dropped.length afterMark
      | some ('E', afterMark) => readExponent negative significand dropped.length afterMark
      | _ =>
        if !dropped.isEmpty then floatOf negative significand dropped.length behind
        else if !negative then .ok (.int significand, behind)
        else if significand = 0 ∨ Decimal.capacity 63 < significand then floatOf true significand 0 behind
        else .ok (.int (-(significand : Int)), behind)

end AccessControl.Json
