import AccessControl.Ordered

/-!
# Identifiers

An identifier is 128 bits, kept as 32 hexadecimal digits.  It is written in five groups of lower
case digits joined by hyphens, and read in that form, as bare digits, in braces, or as a URN.
Reading what was written gives the identifier back.
-/

namespace AccessControl

/-- A 128-bit identifier, by its 32 hexadecimal digits. -/
structure Uuid where
  digits : List (Fin 16)
  length_eq : digits.length = 32
  deriving DecidableEq

namespace Uuid

theorem ext {a b : Uuid} (h : a.digits = b.digits) : a = b := by
  cases a; cases b; simp_all

instance : Ord Uuid := ⟨compareOn digits⟩

instance : Std.TransOrd Uuid := inferInstanceAs (Std.TransCmp (compareOn digits))

instance : Std.LawfulEqOrd Uuid := lawfulEqCmp_compareOn digits fun _ _ => ext

/-- The identifier of zeros, which marks a snapshot that was never loaded. -/
def nil : Uuid := ⟨List.replicate 32 0, by simp⟩

instance : Inhabited Uuid := ⟨nil⟩

/-- The lowest `count` hexadecimal digits of a number, the highest first. -/
def digitsOf : (count n : Nat) → List (Fin 16)
  | 0, _ => []
  | count + 1, n => digitsOf count (n / 16) ++ [⟨n % 16, Nat.mod_lt _ (by decide)⟩]

theorem length_digitsOf (count n : Nat) : (digitsOf count n).length = count := by
  induction count generalizing n with
  | zero => rfl
  | succ count ih => simp [digitsOf, ih]

/-- The identifier with the given value modulo `2 ^ 128`. -/
def ofNat (n : Nat) : Uuid := ⟨digitsOf 32 n, length_digitsOf 32 n⟩

/-- A hexadecimal digit in lower case. -/
def digitChar (d : Fin 16) : Char :=
  if d.val < 10 then Char.ofNat ('0'.toNat + d.val) else Char.ofNat ('a'.toNat + (d.val - 10))

/-- The value of a hexadecimal digit in either case. -/
def digit? (c : Char) : Option (Fin 16) :=
  if '0' ≤ c ∧ c ≤ '9' then some (Fin.ofNat 16 (c.toNat - '0'.toNat))
  else if 'a' ≤ c ∧ c ≤ 'f' then some (Fin.ofNat 16 (c.toNat - 'a'.toNat + 10))
  else if 'A' ≤ c ∧ c ≤ 'F' then some (Fin.ofNat 16 (c.toNat - 'A'.toNat + 10))
  else none

theorem digit?_digitChar (d : Fin 16) : digit? (digitChar d) = some d := by
  revert d; decide

/-- The sizes of the five groups. -/
def groupSizes : List Nat := [8, 4, 4, 4, 12]

/-- The digits cut into groups of the given sizes, each written out, with hyphens between. -/
def grouped : List Nat → List Char → List Char
  | [], rest => rest
  | [size], rest => rest.take size
  | size :: sizes, rest => rest.take size ++ '-' :: grouped sizes (rest.drop size)

/-- The written form. -/
def text (u : Uuid) : String :=
  String.ofList (grouped groupSizes (u.digits.map digitChar))

instance : Repr Uuid := ⟨fun u => reprPrec u.text⟩

/-- Reads one hexadecimal digit per character. -/
def readDigits : List Char → Option (List (Fin 16))
  | [] => some []
  | c :: rest => do
    let d ← digit? c
    let more ← readDigits rest
    return d :: more

/-- The characters without the hyphens that stand right after the groups; none if a hyphen is
missing there or text is left over. -/
def ungrouped : List Nat → List Char → Option (List Char)
  | [], rest => if rest.isEmpty then some [] else none
  | [size], rest => if rest.length = size then some rest else none
  | size :: sizes, rest =>
    match rest.drop size with
    | '-' :: more => (ungrouped sizes more).map (rest.take size ++ ·)
    | _ => none

/-- The identifier with exactly these digits, if they are 32. -/
def ofDigits? (digits : List (Fin 16)) : Option Uuid :=
  if h : digits.length = 32 then some ⟨digits, h⟩ else none

/-- Reads 32 bare digits. -/
def ofBare? (chars : List Char) : Option Uuid := do
  ofDigits? (← readDigits chars)

/-- Reads five groups joined by hyphens. -/
def ofGrouped? (chars : List Char) : Option Uuid := do
  ofBare? (← ungrouped groupSizes chars)

/-- The name of the URN space of identifiers. -/
def urnSpace : List Char := "urn:uuid:".toList

/-- The five groups without what may stand around them (nothing, braces, or the name of the URN
space in letters of either case), after the number of characters passed over in front. -/
def unwrapped (chars : List Char) : Nat × List Char :=
  match chars with
  | '{' :: rest => if rest.getLast? = some '}' then (1, rest.dropLast) else (0, chars)
  | _ =>
    if (chars.take urnSpace.length).map Char.toLower = urnSpace then
      (urnSpace.length, chars.drop urnSpace.length)
    else (0, chars)

/-- Why a text names no identifier.  Positions and lengths count UTF-8 bytes. -/
inductive Refusal where
  /-- A character that is neither a digit nor a hyphen. -/
  | character (c : Char) (position : Nat)
  /-- Bare digits, but not 32 of them, or a text longer than every accepted form. -/
  | wrongLength (length : Nat)
  /-- Hyphens, but not four of them. -/
  | groupCount (count : Nat)
  /-- Five groups, of which this one has the wrong size. -/
  | groupLength (group length : Nat)
  deriving DecidableEq, Repr

/-- The wording of a refusal. -/
def Refusal.message : Refusal → String
  | .character c position => s!"invalid character: found `{c}` at {position}"
  | .wrongLength length => s!"invalid length: found {length}"
  | .groupCount count => s!"invalid group count: expected 5, found {count}"
  | .groupLength group length =>
    let expected := groupSizes.getD group 0
    s!"invalid group length in group {group}: expected {expected}, found {length}"

/-- The first character that is neither a digit nor a hyphen, with its position. -/
def stranger? : (position : Nat) → List Char → Option (Char × Nat)
  | _, [] => none
  | position, c :: rest =>
    if c = '-' ∨ (digit? c).isSome then stranger? (position + c.utf8Size) rest
    else some (c, position)

/-- The positions of the hyphens. -/
def hyphens (chars : List Char) : List Nat :=
  (chars.zipIdx.filter fun entry => entry.1 = '-').map Prod.snd

/-- The first group, among all but the last, that does not end where it should. -/
def misplaced? : (group start : Nat) → List Nat → List Nat → Option (Nat × Nat)
  | group, start, size :: sizes, stop :: stops =>
    if stop = start + size then misplaced? (group + 1) (stop + 1) sizes stops
    else some (group, stop - start)
  | _, _, _, _ => none

/-- Says what is wrong with the groups of a text of `size` bytes, `offset` of which stand in front of
the groups.  `mayBeBare` tells whether bare digits would have been accepted in their place. -/
def diagnoseGroups (size offset : Nat) (mayBeBare : Bool) (groups : List Char) : Refusal :=
  match stranger? offset groups with
  | some (c, position) => .character c position
  | none =>
    let stops := hyphens groups
    if stops.isEmpty && mayBeBare then .wrongLength size
    else if stops.length ≠ 4 then .groupCount (stops.length + 1)
    else
      match misplaced? 0 0 groupSizes stops with
      | some (group, length) => .groupLength group length
      | none => .groupLength 4 (size - 24)

/-- The number of bytes of five groups joined by hyphens. -/
def groupedSize : Nat := 36

/-- The number of bytes of the longest accepted form, a URN. -/
def longestSize : Nat := 45

/-- Says what is wrong with a text in none of the accepted forms.  Where the size of the text, or of
what stands inside its wrapping, is that of an accepted form, it is taken for that form; otherwise
the groups are what is left without the wrapping. -/
def diagnose (chars : List Char) : Refusal :=
  let size := (String.ofList chars).utf8ByteSize
  let (offset, inner) := unwrapped chars
  if longestSize < size then .wrongLength size
  else if size = groupedSize then diagnoseGroups size 0 false chars
  else if size = 32 then diagnoseGroups size 0 true chars
  else if (String.ofList inner).utf8ByteSize = groupedSize then diagnoseGroups groupedSize 0 false inner
  else diagnoseGroups size offset (offset == 0) inner

/-- Reads an identifier in any of the accepted forms. -/
def parse (value : String) : Except Refusal Uuid :=
  let chars := value.toList
  match ofBare? chars <|> ofGrouped? (unwrapped chars).2 with
  | some u => .ok u
  | none => .error (diagnose chars)

/-- Reads an identifier written in five groups of digits, and nothing else. -/
def ofText? (value : String) : Option Uuid := ofGrouped? value.toList

theorem readDigits_map_digitChar (digits : List (Fin 16)) :
    readDigits (digits.map digitChar) = some digits := by
  induction digits with
  | nil => rfl
  | cons d rest ih => simp [readDigits, digit?_digitChar, ih]

theorem ungrouped_grouped (sizes : List Nat) (chars : List Char)
    (fits : chars.length = sizes.foldr (· + ·) 0) : ungrouped sizes (grouped sizes chars) = some chars := by
  induction sizes generalizing chars with
  | nil => simp_all [ungrouped, grouped]
  | cons size sizes ih =>
    cases sizes with
    | nil =>
      simp only [List.foldr_cons, List.foldr_nil, Nat.add_zero] at fits
      simp [ungrouped, grouped, ← fits]
    | cons next more =>
      have long : size ≤ chars.length := by simp_all
      have taken : (chars.take size).length = size := by simp [long]
      have rest := ih (chars.drop size) (by simp_all)
      simp only [ungrouped, grouped]
      rw [List.drop_append, List.take_append, taken]
      simp [rest, List.take_of_length_le (Nat.le_of_eq taken),
        List.drop_of_length_le (Nat.le_of_eq taken)]

/-- The written form names the identifier it was written for. -/
theorem ofText?_text (u : Uuid) : ofText? u.text = some u := by
  have fits : (u.digits.map digitChar).length = groupSizes.foldr (· + ·) 0 := by simp [u.length_eq, groupSizes]
  simp [ofText?, text, ofGrouped?, ungrouped_grouped _ _ fits, ofBare?, readDigits_map_digitChar,
    ofDigits?, u.length_eq]

example : (parse "\x7b6BA7B810-9dad-11d1-80b4-00c04fd430c8\x7d").toOption.map text =
    some "6ba7b810-9dad-11d1-80b4-00c04fd430c8" := by decide +kernel
example : (parse "URN:UUID:6ba7b810-9dad-11d1-80b4-00c04fd430c8").toOption.map text =
    some "6ba7b810-9dad-11d1-80b4-00c04fd430c8" := by decide +kernel

end Uuid

end AccessControl
