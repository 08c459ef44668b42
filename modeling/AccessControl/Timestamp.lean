import AccessControl.Decimal.Natural
import AccessControl.Text.Blank

/-!
# Points in time

A point in time is a civil date and time of day in UTC.  It is written in the form of RFC 3339
with as many groups of three fractional digits as it needs, and read in a relaxed form of it:
blanks may stand between the parts, the date and the time may be separated by a space, and any
offset from UTC may follow.
-/

namespace AccessControl

/-- Whether the year has a 29th of February. -/
def isLeapYear (year : Int) : Bool :=
  year % 4 == 0 && (year % 100 != 0 || year % 400 == 0)

/-- The number of days of a month, counted from 1. -/
def daysOfMonth (year : Int) (month : Nat) : Nat :=
  match month with
  | 2 => if isLeapYear year then 29 else 28
  | 4 | 6 | 9 | 11 => 30
  | _ => 31

/-- A day of the calendar, and a time of day with at most one leap second. -/
def IsCivil (year : Int) (month day hour minute second nanosecond : Nat) : Prop :=
  (-262143 ≤ year ∧ year ≤ 262142) ∧ (1 ≤ month ∧ month ≤ 12) ∧
    (1 ≤ day ∧ day ≤ daysOfMonth year month) ∧ hour < 24 ∧ minute < 60 ∧ second ≤ 60 ∧
    nanosecond < 1000000000

instance (year : Int) (month day hour minute second nanosecond : Nat) :
    Decidable (IsCivil year month day hour minute second nanosecond) :=
  inferInstanceAs (Decidable (_ ∧ _))

/-- A point in time, as a civil date and time of day in UTC. -/
structure Timestamp where
  year : Int
  month : Nat
  day : Nat
  hour : Nat
  minute : Nat
  second : Nat
  nanosecond : Nat
  valid : IsCivil year month day hour minute second nanosecond
  deriving DecidableEq

namespace Timestamp

/-- The start of 1970. -/
def epoch : Timestamp := ⟨1970, 1, 1, 0, 0, 0, 0, by decide⟩

instance : Inhabited Timestamp := ⟨epoch⟩

/-- The lowest `count` decimal digits of a number, the highest first. -/
def padded : (count n : Nat) → List Char
  | 0, _ => []
  | count + 1, n => padded count (n / 10) ++ [Char.ofNat ('0'.toNat + n % 10)]

/-- A year of four digits as it is, any other with its sign and at least four digits. -/
def yearChars (year : Int) : List Char :=
  if 0 ≤ year ∧ year ≤ 9999 then padded 4 year.toNat
  else
    let size := max 4 (toString year.natAbs).length
    (if year < 0 then '-' else '+') :: padded size year.natAbs

/-- The fraction of a second in none, one, two or three groups of three digits. -/
def fractionChars (nanosecond : Nat) : List Char :=
  if nanosecond = 0 then []
  else if nanosecond % 1000000 = 0 then '.' :: padded 3 (nanosecond / 1000000)
  else if nanosecond % 1000 = 0 then '.' :: padded 6 (nanosecond / 1000)
  else '.' :: padded 9 nanosecond

/-- The written form. -/
def text (t : Timestamp) : String :=
  String.ofList <|
    yearChars t.year ++ '-' :: padded 2 t.month ++ '-' :: padded 2 t.day ++ 'T' ::
      padded 2 t.hour ++ ':' :: padded 2 t.minute ++ ':' :: padded 2 t.second ++
      fractionChars t.nanosecond ++ ['Z']

instance : Repr Timestamp := ⟨fun t => reprPrec t.text⟩

/-- Why a text names no point in time. -/
inductive Refusal where
  /-- A part beyond what a calendar or a clock can show. -/
  | outOfRange
  /-- A character that cannot stand where it stands. -/
  | unexpected
  /-- The text ends too early. -/
  | tooShort
  /-- Something follows. -/
  | tooLong
  /-- A point in time that is beyond the calendar in UTC. -/
  | impossible
  deriving DecidableEq, Repr

/-- The wording of a refusal. -/
def Refusal.message : Refusal → String
  | .outOfRange => "input is out of range"
  | .unexpected => "input contains invalid characters"
  | .tooShort => "premature end of input"
  | .tooLong => "trailing input"
  | .impossible => "no possible date and time matching input"

/-- The value of an ASCII digit. -/
def digit? (c : Char) : Option Nat :=
  if c.isDigit then some (c.toNat - '0'.toNat) else none

/-- Reads digits as long as there are any, at most `limit` of them. -/
def takeDigits : (limit value : Nat) → List Char → Nat × List Char
  | 0, value, rest => (value, rest)
  | _, value, [] => (value, [])
  | limit + 1, value, c :: rest =>
    match digit? c with
    | some d => takeDigits limit (10 * value + d) rest
    | none => (value, c :: rest)

/-- Reads a number of one to `limit` digits. -/
def number (limit : Nat) (chars : List Char) : Except Refusal (Nat × List Char) :=
  match chars with
  | [] => .error .tooShort
  | c :: _ =>
    if (digit? c).isNone then .error .unexpected
    else
      let (value, rest) := takeDigits limit 0 chars
      if value < Decimal.capacity 63 then .ok (value, rest) else .error .outOfRange

/-- Reads a number of one or two digits after blanks, and checks its range. -/
def part (low high : Nat) (chars : List Char) : Except Refusal (Nat × List Char) := do
  let (value, rest) ← number 2 (Text.trimStartChars chars)
  if low ≤ value ∧ value ≤ high then return (value, rest) else throw .outOfRange

/-- Reads a year after blanks: up to four digits, or a sign and any number of digits.  A year beyond
32 bits is refused at once, before anything behind it is looked at. -/
def readYear (chars : List Char) : Except Refusal (Int × List Char) := do
  let chars := Text.trimStartChars chars
  let (year, rest) ←
    match chars with
    | '-' :: digits => (number digits.length digits).map fun (value, rest) => (-(value : Int), rest)
    | '+' :: digits => (number digits.length digits).map fun (value, rest) => ((value : Int), rest)
    | _ => (number 4 chars).map fun (value, rest) => ((value : Int), rest)
  if -2147483648 ≤ year ∧ year < 2147483648 then return (year, rest) else throw .outOfRange

/-- Passes over the given character, after blanks. -/
def expect (c : Char) (chars : List Char) : Except Refusal (List Char) :=
  match Text.trimStartChars chars with
  | [] => .error .tooShort
  | d :: rest => if d = c then .ok rest else .error .unexpected

/-- Reads the fraction of a second, if there is one; digits after the ninth are dropped. -/
def readFraction (chars : List Char) : Except Refusal (Nat × List Char) :=
  match chars with
  | '.' :: digits => do
    let (value, rest) ← number 9 digits
    let count := digits.length - rest.length
    return (value * Nat.pow 10 (9 - count), rest.dropWhile Char.isDigit)
  | _ => .ok (0, chars)

/-- Reads two digits, as the hours or minutes of an offset are written.  Lengths count in UTF-8
bytes, so a lone character of several bytes is a wrong character and not the end of the text. -/
def readPair (highestTens : Nat) (chars : List Char) : Except Refusal (Nat × List Char) :=
  match chars with
  | a :: b :: rest =>
    match digit? a, digit? b with
    | some tens, some ones =>
      if tens ≤ highestTens then .ok (10 * tens + ones, rest) else .error .outOfRange
    | _, _ => .error .unexpected
  | [c] => if 2 ≤ c.utf8Size then .error .unexpected else .error .tooShort
  | [] => .error .tooShort

/-- Reads the offset from UTC, in seconds. -/
def readOffset (chars : List Char) : Except Refusal (Int × List Char) :=
  let signed (sign : Int) (rest : List Char) : Except Refusal (Int × List Char) := do
    let (hours, rest) ← readPair 9 rest
    let rest := rest.dropWhile fun c => c = ':' || Text.isBlank c
    let (minutes, rest) ← readPair 5 rest
    return (sign * (hours * 3600 + minutes * 60), rest)
  match chars with
  | [] => .error .tooShort
  | u :: t :: c :: rest =>
    if [u, t, c].map Char.toLower = ['u', 't', 'c'] then .ok (0, rest)
    else if u = 'Z' ∨ u = 'z' then .ok (0, t :: c :: rest)
    else if u = '+' then signed 1 (t :: c :: rest)
    else if u = '-' ∨ u = '\u2212' then signed (-1) (t :: c :: rest)
    else .error .unexpected
  | c :: rest =>
    if c = 'Z' ∨ c = 'z' then .ok (0, rest)
    else if c = '+' then signed 1 rest
    else if c = '-' ∨ c = '\u2212' then signed (-1) rest
    else .error .unexpected

/-- The number of days from the start of 1970 to a day of the calendar. -/
def dayNumber (year : Int) (month day : Nat) : Int :=
  let shifted : Int := if month ≤ 2 then year - 1 else year
  let era := shifted.fdiv 400
  let yearOfEra := shifted - era * 400
  let monthFromMarch : Int := if month ≤ 2 then (month : Int) + 9 else (month : Int) - 3
  let dayOfYear := (153 * monthFromMarch + 2) / 5 + (day : Int) - 1
  era * 146097 + (yearOfEra * 365 + yearOfEra / 4 - yearOfEra / 100 + dayOfYear) - 719468

/-- The day of the calendar with the given number. -/
def ofDayNumber (number : Int) : Int × Nat × Nat :=
  let z := number + 719468
  let era := z.fdiv 146097
  let dayOfEra := z - era * 146097
  let yearOfEra :=
    (dayOfEra - dayOfEra / 1460 + dayOfEra / 36524 - dayOfEra / 146096) / 365
  let dayOfYear := dayOfEra - (365 * yearOfEra + yearOfEra / 4 - yearOfEra / 100)
  let monthFromMarch := (5 * dayOfYear + 2) / 153
  let day := dayOfYear - (153 * monthFromMarch + 2) / 5 + 1
  let month := if monthFromMarch < 10 then monthFromMarch + 3 else monthFromMarch - 9
  let year := yearOfEra + era * 400 + (if month ≤ 2 then 1 else 0)
  (year, month.toNat, day.toNat)

/-- The point in time with these parts, if they name one. -/
def ofParts? (year : Int) (month day hour minute second nanosecond : Nat) : Option Timestamp :=
  if valid : IsCivil year month day hour minute second nanosecond then
    some ⟨year, month, day, hour, minute, second, nanosecond, valid⟩
  else none

/-- The point in time so many nanoseconds after the start of 1970. -/
def ofNanoseconds (count : Int) : Timestamp :=
  let seconds := count.fdiv 1000000000
  let (year, month, day) := ofDayNumber (seconds.fdiv 86400)
  let ofDay := (seconds.fmod 86400).toNat
  let nanosecond := (count.fmod 1000000000).toNat
  (ofParts? year month day (ofDay / 3600) (ofDay / 60 % 60) (ofDay % 60) nanosecond).getD epoch

/-- The point in time that a clock ahead of UTC by `offset` seconds shows as `t`. -/
def aheadBy? (offset : Int) (t : Timestamp) : Option Timestamp :=
  if offset = 0 then some t
  else
    let seconds : Int :=
      dayNumber t.year t.month t.day * 86400 + t.hour * 3600 + t.minute * 60 - offset
    let (year, month, day) := ofDayNumber (seconds.fdiv 86400)
    let ofDay := (seconds.fmod 86400).toNat
    ofParts? year month day (ofDay / 3600) (ofDay / 60 % 60) t.second t.nanosecond

/-- Reads a point in time in the relaxed form of RFC 3339. -/
def parse (value : String) : Except Refusal Timestamp := do
  let (year, rest) ← readYear value.toList
  let rest ← expect '-' rest
  let (month, rest) ← part 1 12 rest
  let rest ← expect '-' rest
  let (day, rest) ← part 1 31 rest
  let rest ←
    match rest with
    | [] => throw .tooShort
    | c :: rest => if c = 't' ∨ c = 'T' ∨ c = ' ' then pure rest else throw .unexpected
  let (hour, rest) ← part 0 23 rest
  let rest ← expect ':' rest
  let (minute, rest) ← part 0 59 rest
  let rest ← expect ':' rest
  let (second, rest) ← part 0 60 rest
  let (nanosecond, rest) ← readFraction rest
  let (offset, rest) ← readOffset (Text.trimStartChars rest)
  if !(Text.trimStartChars rest).isEmpty then throw .tooLong
  if 86400 ≤ offset.natAbs then throw .outOfRange
  match ofParts? year month day hour minute second nanosecond with
  | none => throw .outOfRange
  | some t =>
    match t.aheadBy? offset with
    | none => throw .impossible
    | some t => return t

example : (parse "2024-05-01 01:00:00.5 +02:00").toOption.map text =
    some "2024-04-30T23:00:00.500Z" := by decide +kernel
example : (parse "2023-02-29T00:00:00Z").toOption = none := by decide +kernel

end Timestamp

end AccessControl
