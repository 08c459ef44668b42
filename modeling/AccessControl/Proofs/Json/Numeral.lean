import AccessControl.Json.Reader
import AccessControl.Proofs.Json.Escape

/-!
# Written numbers are read as a whole

A number stands in a document before a comma, before the end of a list or a map, or at the end of the
text.  Reading it there takes exactly its characters, and gives the same value wherever it stands, or
none.  So what becomes of the numbers of a document can be told from each number on its own.
-/

namespace AccessControl.Json

/-! ## Steps that settle -/

/-- What stands behind a part of a written document. -/
def Delimited (rest : List Char) : Prop :=
  ∀ c ∈ rest.head?, c = ',' ∨ c = ']' ∨ c = '\x7d'

theorem delimited_nil : Delimited [] := nofun

theorem Delimited.not_isDigit {rest : List Char} (delimited : Delimited rest) :
    ∀ c ∈ rest.head?, c.isDigit = false := by
  intro c isHead
  rcases delimited c isHead with rfl | rfl | rfl <;> decide

/-- Whether a step takes exactly some characters and gives one value for them, or none, whatever stands
behind them and wherever they stand. -/
def Settles (read : Cursor → Except Fault (Json × Cursor)) (chars : List Char) : Prop :=
  ∃ value? : Option Json, ∀ (rest : List Char) (offset : Nat), Delimited rest →
    outcome (read ⟨chars ++ rest, offset⟩) = value?.map fun value => (value, rest)

/-- A step whose outcome is that of another one at the same characters. -/
theorem Settles.congr {read other : Cursor → Except Fault (Json × Cursor)} {chars others : List Char}
    (settles : Settles other others)
    (same : ∀ (rest : List Char) (offset : Nat), Delimited rest →
      ∃ later, outcome (read ⟨chars ++ rest, offset⟩) = outcome (other ⟨others ++ rest, later⟩)) :
    Settles read chars := by
  rcases settles with ⟨value?, gives⟩
  refine ⟨value?, fun rest offset delimited => ?_⟩
  rcases same rest offset delimited with ⟨later, equal⟩
  rw [equal, gives rest later delimited]

theorem settles_of_none {read : Cursor → Except Fault (Json × Cursor)} {chars : List Char}
    (nothing : ∀ (rest : List Char) (offset : Nat), Delimited rest →
      outcome (read ⟨chars ++ rest, offset⟩) = none) : Settles read chars :=
  ⟨none, nothing⟩

theorem settles_floatOf (negative : Bool) (significand : Nat) (exponent : Int) :
    Settles (floatOf negative significand exponent) [] := by
  cases scaled : scaledFloat? (exponent.natAbs / 308 + 2) (Float.ofNat significand) exponent with
  | none => exact ⟨none, fun rest offset _ => by simp [floatOf, scaled]⟩
  | some value =>
      exact ⟨some (.float (if negative then -value else value).toBits),
        fun rest offset _ => by simp [floatOf, scaled]⟩

/-! ## Numerals -/

/-- One or more digits. -/
structure AreDigits (chars : List Char) : Prop where
  nonempty : chars ≠ []
  digits : ∀ c ∈ chars, c.isDigit = true

/-- The digits before a character that is none are read at once. -/
theorem digitsAhead_append {digits rest : List Char} (areDigits : ∀ c ∈ digits, c.isDigit = true)
    (noDigit : ∀ c ∈ rest.head?, c.isDigit = false) (offset : Nat) :
    digitsAhead ⟨digits ++ rest, offset⟩ = (digits, ⟨rest, offset + digits.length⟩) := by
  have ended : rest.takeWhile Char.isDigit = [] := by
    cases rest with
    | nil => rfl
    | cons c more => simp [noDigit c rfl]
  have taken : (digits ++ rest).takeWhile Char.isDigit = digits := by
    rw [List.takeWhile_append_of_pos areDigits, ended, List.append_nil]
  simp [digitsAhead, taken]

/-- A sign and digits, behind the mark of an exponent. -/
inductive IsExponent : List Char → Prop where
  | signed {sign : Char} {digits : List Char} (isSign : sign = '+' ∨ sign = '-')
      (areDigits : AreDigits digits) : IsExponent (sign :: digits)

/-- An exponent, or nothing. -/
inductive IsTail : List Char → Prop where
  | nothing : IsTail []
  | exponent {chars : List Char} (isExponent : IsExponent chars) : IsTail ('e' :: chars)

/-- A fraction, an exponent, both or nothing. -/
inductive IsEnding : List Char → Prop where
  | tail {chars : List Char} (isTail : IsTail chars) : IsEnding chars
  | fraction {digits chars : List Char} (areDigits : AreDigits digits) (isTail : IsTail chars) :
      IsEnding ('.' :: (digits ++ chars))

/-- A number without a sign, as it is written. -/
inductive IsNumeral : List Char → Prop where
  | mk {whole ending : List Char} (areDigits : AreDigits whole) (isEnding : IsEnding ending) :
      IsNumeral (whole ++ ending)

/-- The exponent that a sign and digits stand for. -/
def exponentOf (sign : Char) (digits : List Char) : Int :=
  if sign = '-' then -(Nat.ofDigitChars 10 digits 0 : Int) else Nat.ofDigitChars 10 digits 0

/-- What reading an exponent comes to, once its sign and its digits are told apart. -/
theorem outcome_readExponent {sign : Char} {digits rest : List Char} (isSign : sign = '+' ∨ sign = '-')
    (areDigits : AreDigits digits) (delimited : Delimited rest) (negative : Bool) (significand : Nat)
    (start : Int) (offset : Nat) :
    ∃ later, outcome (readExponent negative significand start ⟨sign :: digits ++ rest, offset⟩) =
      if Decimal.capacity 31 ≤ Nat.ofDigitChars 10 digits 0 then
        if significand ≠ 0 ∧ sign = '+' then none else outcome (floatOf negative 0 0 ⟨rest, later⟩)
      else
        outcome (floatOf negative significand (start + exponentOf sign digits) ⟨rest, later⟩) := by
  rcases List.exists_cons_of_ne_nil areDigits.nonempty with ⟨first, more, rfl⟩
  have isDigit : first.isDigit = true := areDigits.digits first (List.mem_cons_self ..)
  have ahead (place : Nat) : digitsAhead ⟨first :: (more ++ rest), place⟩ =
      (first :: more, ⟨rest, place + (first :: more).length⟩) :=
    digitsAhead_append areDigits.digits delimited.not_isDigit place
  refine ⟨offset + sign.utf8Size + (first :: more).length, ?_⟩
  rcases isSign with rfl | rfl
  all_goals
    simp only [readExponent, Cursor.next?, List.cons_append, isDigit, ahead, exponentOf,
      Nat.ofDigitChars]
    generalize (first :: more).foldl (fun n d => 10 * n + (d.toNat - '0'.toNat)) 0 = exponent
    by_cases tooLarge : Decimal.capacity 31 ≤ exponent
    · by_cases isZero : significand = 0 <;> simp [tooLarge, isZero]
    · simp [tooLarge]

theorem settles_readExponent {chars : List Char} (isExponent : IsExponent chars) (negative : Bool)
    (significand : Nat) (start : Int) : Settles (readExponent negative significand start) chars := by
  cases isExponent with
  | @signed sign digits isSign areDigits =>
      have read (rest : List Char) (offset : Nat) (delimited : Delimited rest) :=
        outcome_readExponent isSign areDigits delimited negative significand start offset
      by_cases tooLarge : Decimal.capacity 31 ≤ Nat.ofDigitChars 10 digits 0
      · by_cases overflows : significand ≠ 0 ∧ sign = '+'
        · refine settles_of_none fun rest offset delimited => ?_
          rcases read rest offset delimited with ⟨later, equal⟩
          rw [equal, if_pos tooLarge, if_pos overflows]
        · refine (settles_floatOf negative 0 0).congr fun rest offset delimited => ?_
          rcases read rest offset delimited with ⟨later, equal⟩
          exact ⟨later, by rw [equal, if_pos tooLarge, if_neg overflows]; rfl⟩
      · refine (settles_floatOf negative significand (start + exponentOf sign digits)).congr
          fun rest offset delimited => ?_
        rcases read rest offset delimited with ⟨later, equal⟩
        exact ⟨later, by rw [equal, if_neg tooLarge]; rfl⟩

theorem settles_readTail {chars : List Char} (isTail : IsTail chars) (negative : Bool)
    (significand : Nat) (start : Int) : Settles (readTail negative significand start) chars := by
  cases isTail with
  | nothing =>
      refine (settles_floatOf negative significand start).congr fun rest offset delimited => ?_
      refine ⟨offset, ?_⟩
      cases rest with
      | nil => rfl
      | cons c more =>
          rcases delimited c rfl with rfl | rfl | rfl <;> rfl
  | exponent isExponent =>
      refine (settles_readExponent isExponent negative significand start).congr
        fun rest offset delimited => ⟨offset + 'e'.utf8Size, rfl⟩

/-- What follows the digits of a numeral is no digit. -/
theorem IsTail.not_isDigit {chars rest : List Char} (isTail : IsTail chars)
    (delimited : Delimited rest) : ∀ c ∈ (chars ++ rest).head?, c.isDigit = false := by
  cases isTail with
  | nothing => exact delimited.not_isDigit
  | exponent => simp

theorem IsEnding.not_isDigit {chars rest : List Char} (isEnding : IsEnding chars)
    (delimited : Delimited rest) : ∀ c ∈ (chars ++ rest).head?, c.isDigit = false := by
  cases isEnding with
  | tail isTail => exact isTail.not_isDigit delimited
  | fraction => simp

theorem settles_readFraction {digits chars : List Char} (areDigits : AreDigits digits)
    (isTail : IsTail chars) (negative : Bool) (significand : Nat) (start : Int) :
    Settles (readFraction negative significand start) (digits ++ chars) := by
  refine (settles_readTail isTail negative (absorbDigits significand digits).1
    (start - (digits.length - (absorbDigits significand digits).2.length : Nat))).congr
      fun rest offset delimited => ⟨offset + digits.length, ?_⟩
  rw [readFraction, List.append_assoc,
    digitsAhead_append areDigits.digits (isTail.not_isDigit delimited)]
  simp [areDigits.nonempty]

/-- What is made of the digits of a number without a fraction and an exponent. -/
def wholeNumber (negative : Bool) (significand : Nat) (dropped : List Char) (cursor : Cursor) :
    Except Fault (Json × Cursor) :=
  if !dropped.isEmpty then floatOf negative significand dropped.length cursor
  else if !negative then .ok (.int significand, cursor)
  else if significand = 0 ∨ Decimal.capacity 63 < significand then floatOf true significand 0 cursor
  else .ok (.int (-(significand : Int)), cursor)

/-- Where digits were left out, a float is meant. -/
theorem wholeNumber_of_ne_nil {dropped : List Char} (left : dropped ≠ []) (negative : Bool)
    (significand : Nat) (cursor : Cursor) :
    wholeNumber negative significand dropped cursor =
      floatOf negative significand dropped.length cursor := by
  simp [wholeNumber, left]

theorem settles_wholeNumber (negative : Bool) (significand : Nat) (dropped : List Char) :
    Settles (wholeNumber negative significand dropped) [] := by
  unfold wholeNumber
  split
  · exact settles_floatOf negative significand dropped.length
  · split
    · exact ⟨some (.int significand), fun rest offset _ => rfl⟩
    · split
      · exact settles_floatOf true significand 0
      · exact ⟨some (.int (-(significand : Int))), fun rest offset _ => rfl⟩

/-- What is made of the digits before the point, together with what follows them. -/
def afterWhole (negative : Bool) (significand : Nat) (dropped : List Char) (cursor : Cursor) :
    Except Fault (Json × Cursor) :=
  match cursor.next? with
  | some ('.', afterPoint) => readFraction negative significand dropped.length afterPoint
  | some ('e', afterMark) => readExponent negative significand dropped.length afterMark
  | some ('E', afterMark) => readExponent negative significand dropped.length afterMark
  | _ => wholeNumber negative significand dropped cursor

/-- Before a delimiter a number ends with its digits. -/
theorem afterWhole_of_delimited {rest : List Char} (delimited : Delimited rest) (negative : Bool)
    (significand : Nat) (dropped : List Char) (offset : Nat) :
    afterWhole negative significand dropped ⟨rest, offset⟩ =
      wholeNumber negative significand dropped ⟨rest, offset⟩ := by
  cases rest with
  | nil => rfl
  | cons c more => rcases delimited c rfl with rfl | rfl | rfl <;> rfl

theorem settles_afterWhole {chars : List Char} (isEnding : IsEnding chars) (negative : Bool)
    (significand : Nat) (dropped : List Char) :
    Settles (afterWhole negative significand dropped) chars := by
  cases isEnding with
  | fraction areDigits isTail =>
      exact (settles_readFraction areDigits isTail negative significand dropped.length).congr
        fun rest offset _ => ⟨offset + '.'.utf8Size, rfl⟩
  | tail isTail =>
      cases isTail with
      | nothing =>
          refine (settles_wholeNumber negative significand dropped).congr fun rest offset delimited => ?_
          exact ⟨offset, congrArg outcome (afterWhole_of_delimited delimited ..)⟩
      | exponent isExponent =>
          exact (settles_readExponent isExponent negative significand dropped.length).congr
            fun rest offset _ => ⟨offset + 'e'.utf8Size, rfl⟩

/-- Whether digits start with a zero that must not be there. -/
def HasLeadingZero (digits : List Char) : Prop := ∃ c more, digits = '0' :: c :: more

theorem outcome_readNumber_of_hasLeadingZero {whole : List Char} (areDigits : AreDigits whole)
    (leading : HasLeadingZero whole) (negative : Bool) (rest : List Char) (offset : Nat) :
    outcome (readNumber negative ⟨whole ++ rest, offset⟩) = none := by
  rcases leading with ⟨c, more, rfl⟩
  have isDigit : c.isDigit = true := areDigits.digits c (by simp)
  simp [readNumber, Cursor.next?, isDigit]

/-- Digits that may start a number are read up to their end. -/
theorem readNumber_eq {whole rest : List Char} (areDigits : AreDigits whole)
    (plain : ¬ HasLeadingZero whole) (noDigit : ∀ c ∈ rest.head?, c.isDigit = false) (negative : Bool)
    (offset : Nat) :
    readNumber negative ⟨whole ++ rest, offset⟩ =
      afterWhole negative (absorbDigits 0 whole).1 (absorbDigits 0 whole).2
        ⟨rest, offset + whole.length⟩ := by
  have ahead := digitsAhead_append areDigits.digits noDigit offset
  rcases List.exists_cons_of_ne_nil areDigits.nonempty with ⟨first, more, rfl⟩
  have isDigit : first.isDigit = true := areDigits.digits first (List.mem_cons_self ..)
  have noZero : ¬ (first = '0' ∧ ((more ++ rest).head?.map Char.isDigit).getD false = true) := by
    intro zero
    rcases zero with ⟨rfl, followed⟩
    cases more with
    | cons second others => exact plain ⟨second, others, rfl⟩
    | nil =>
        cases rest with
        | nil => simp at followed
        | cons c others => simp [noDigit c rfl] at followed
  rw [List.cons_append] at ahead ⊢
  rw [readNumber]
  simp only [Cursor.next?, isDigit, if_neg noZero, ahead]
  rfl

theorem settles_readNumber {chars : List Char} (isNumeral : IsNumeral chars) (negative : Bool) :
    Settles (readNumber negative) chars := by
  cases isNumeral with
  | @mk whole ending areDigits isEnding =>
      by_cases leading : HasLeadingZero whole
      · refine settles_of_none fun rest offset _ => ?_
        rw [List.append_assoc]
        exact outcome_readNumber_of_hasLeadingZero areDigits leading negative _ offset
      · refine (settles_afterWhole isEnding negative (absorbDigits 0 whole).1
          (absorbDigits 0 whole).2).congr fun rest offset delimited => ⟨offset + whole.length, ?_⟩
        rw [List.append_assoc,
          readNumber_eq areDigits leading (isEnding.not_isDigit delimited) negative offset]

/-! ## Written numbers -/

/-- A number as it is written, with its sign if it is negative. -/
inductive IsSigned : List Char → Prop where
  | plain {chars : List Char} (isNumeral : IsNumeral chars) : IsSigned chars
  | negative {chars : List Char} (isNumeral : IsNumeral chars) : IsSigned ('-' :: chars)

theorem AreDigits.append {chars more : List Char} (areDigits : AreDigits chars)
    (moreDigits : ∀ c ∈ more, c.isDigit = true) : AreDigits (chars ++ more) := by
  refine ⟨by simp [areDigits.nonempty], fun c isChar => ?_⟩
  exact (List.mem_append.mp isChar).elim (areDigits.digits c) (moreDigits c)

theorem areDigits_toDigits (n : Nat) : AreDigits (Nat.toDigits 10 n) :=
  ⟨Nat.toDigits_ne_nil, fun _ => Nat.isDigit_of_mem_toDigits (by decide) (by decide)⟩

theorem isNumeral_toDigits (n : Nat) : IsNumeral (Nat.toDigits 10 n) := by
  have isNumeral := IsNumeral.mk (areDigits_toDigits n) (.tail .nothing)
  rwa [List.append_nil] at isNumeral

theorem toList_write_int (n : Int) :
    (Json.int n).write.toList =
      if 0 ≤ n then Nat.toDigits 10 n.toNat else '-' :: Nat.toDigits 10 (-n).toNat := by
  rw [write, Int.toString_eq_repr, Int.repr_eq_if]
  split <;> simp [Nat.toList_repr]

theorem isSigned_int (n : Int) : IsSigned (Json.int n).write.toList := by
  rw [toList_write_int]
  split
  · exact .plain (isNumeral_toDigits _)
  · exact .negative (isNumeral_toDigits _)

theorem IsNumeral.fraction {whole fraction : List Char} (areDigits : AreDigits whole)
    (fractionDigits : AreDigits fraction) : IsNumeral (whole ++ '.' :: fraction) := by
  have isNumeral := IsNumeral.mk areDigits (.fraction fractionDigits .nothing)
  rwa [List.append_nil] at isNumeral

/-- Digits with a point between them. -/
theorem isNumeral_positional {digits : List Char} (areDigits : AreDigits digits) {count : Nat}
    (some : 0 < count) (notAll : count < digits.length) :
    IsNumeral (digits.take count ++ '.' :: digits.drop count) := by
  refine .fraction ⟨?_, fun c isTaken => ?_⟩ ⟨?_, fun c isLeft => ?_⟩
  · simp [areDigits.nonempty]
    omega
  · exact areDigits.digits c (List.mem_of_mem_take isTaken)
  · simpa using notAll
  · exact areDigits.digits c (List.mem_of_mem_drop isLeft)

/-- Digits with a point behind the first one, if there are more, and an exponent. -/
theorem isNumeral_scientific {digits exponent : List Char} {sign : Char} (areDigits : AreDigits digits)
    (isSign : sign = '+' ∨ sign = '-') (exponentDigits : AreDigits exponent) :
    IsNumeral (digits.take 1 ++
      ((if digits.drop 1 = [] then [] else '.' :: digits.drop 1) ++ 'e' :: sign :: exponent)) := by
  have isTail : IsTail ('e' :: sign :: exponent) := .exponent (.signed isSign exponentDigits)
  rcases List.exists_cons_of_ne_nil areDigits.nonempty with ⟨first, more, rfl⟩
  have firstDigit : AreDigits [first] :=
    ⟨List.cons_ne_nil first [], fun c isFirst => areDigits.digits c (by simp_all)⟩
  simp only [List.take_succ_cons, List.take_zero, List.drop_succ_cons, List.drop_zero]
  split
  · exact .mk firstDigit (.tail isTail)
  · next someMore =>
    have moreDigits : AreDigits more :=
      ⟨someMore, fun c isMore => areDigits.digits c (List.mem_cons_of_mem first isMore)⟩
    exact .mk firstDigit (.fraction moreDigits isTail)

theorem isDigit_of_mem_zeros {count : Nat} : ∀ c ∈ List.replicate count '0', c.isDigit = true := by
  intro c isZero
  rw [(List.mem_replicate.mp isZero).2]
  decide

/-- A sign does not matter to whether a number is written as one. -/
theorem isSigned_append {body : String} (isNumeral : IsNumeral body.toList) (isPositive : Prop)
    [Decidable isPositive] : IsSigned ((if isPositive then "" else "-") ++ body).toList := by
  split
  · simpa using IsSigned.plain isNumeral
  · simpa using IsSigned.negative isNumeral

theorem areDigits_toString (n : Nat) : AreDigits (toString n).toList := by
  have digits : (toString n).toList = Nat.toDigits 10 n := Nat.toList_repr
  exact digits ▸ areDigits_toDigits n

theorem isSigned_float (bits : UInt64) : IsSigned (Json.float bits).write.toList := by
  rw [write, floatText]
  refine isSigned_append ?_ _
  split
  · have shape : "0.0".toList = ['0'] ++ '.' :: ['0'] := by decide
    exact shape ▸ .fraction ⟨by simp, by simp⟩ ⟨by simp, by simp⟩
  · next b _ =>
    -- The four layouts: zeros behind the digits, a point inside, zeros before them, an exponent.
    generalize Decimal.Scientific.reduced 400 b.shortest = d
    have areDigits := areDigits_toString d.digits
    dsimp only
    generalize toString d.digits = digits at areDigits ⊢
    rw [← String.length_toList]
    split
    · simpa using IsNumeral.fraction (areDigits.append isDigit_of_mem_zeros) ⟨by simp, by simp⟩
    · next notWhole =>
      split
      · next inside =>
        simpa using isNumeral_positional areDigits
          (by omega : 0 < (d.exponent + digits.toList.length).toNat) (by omega)
      · split
        · have zeroDigit : AreDigits ['0'] := ⟨by simp, by simp⟩
          have behind : AreDigits (List.replicate (-(d.exponent + digits.toList.length)).toNat '0' ++
              digits.toList) :=
            ⟨by simp [areDigits.nonempty], fun c isChar =>
              (List.mem_append.mp isChar).elim (isDigit_of_mem_zeros c) (areDigits.digits c)⟩
          simpa using IsNumeral.fraction zeroDigit behind
        · have isMark : ∃ sign, (sign = '+' ∨ sign = '-') ∧
              (if d.exponent + digits.toList.length - 1 < 0 then "e-" else "e+").toList =
                ['e', sign] := by
            split
            · exact ⟨'-', .inr rfl, by decide⟩
            · exact ⟨'+', .inl rfl, by decide⟩
          rcases isMark with ⟨sign, isSign, mark⟩
          have isNumeral := isNumeral_scientific areDigits isSign
            (areDigits_toString (d.exponent + digits.toList.length - 1).natAbs)
          simp only [String.toList_append, mark]
          by_cases noMore : digits.toList.tail = []
          · simpa [noMore] using isNumeral
          · simpa [noMore] using isNumeral

/-! ## Numbers on their own -/

theorem readScalar_of_isDigit {c : Char} (isDigit : c.isDigit = true) (fuel : Nat) (rest : List Char)
    (offset : Nat) :
    readScalar fuel ⟨c :: rest, offset⟩ = readNumber false ⟨c :: rest, offset⟩ := by
  simp only [readScalar, Cursor.next?]
  split <;> first | exact absurd isDigit (by decide) | rw [if_pos isDigit]

/-- A written number is read as one, wherever it stands. -/
theorem settles_readScalar {chars : List Char} (isSigned : IsSigned chars) :
    ∃ value? : Option Json, ∀ (fuel : Nat) (rest : List Char) (offset : Nat), Delimited rest →
      outcome (readScalar fuel ⟨chars ++ rest, offset⟩) = value?.map fun value => (value, rest) := by
  cases isSigned with
  | plain isNumeral =>
      rcases settles_readNumber isNumeral false with ⟨value?, gives⟩
      refine ⟨value?, fun fuel rest offset delimited => ?_⟩
      rw [← gives rest offset delimited]
      cases isNumeral with
      | @mk whole ending areDigits isEnding =>
          rcases List.exists_cons_of_ne_nil areDigits.nonempty with ⟨first, more, rfl⟩
          have isDigit : first.isDigit = true := areDigits.digits first (List.mem_cons_self ..)
          exact congrArg outcome (readScalar_of_isDigit isDigit fuel _ offset)
  | negative isNumeral =>
      rcases settles_readNumber isNumeral true with ⟨value?, gives⟩
      exact ⟨value?, fun fuel rest offset delimited => gives rest (offset + '-'.utf8Size) delimited⟩

/-- What is read from the text of a number alone. -/
def rereadNumber (number : Json) : Option Json :=
  (outcome (readScalar 0 ⟨number.write.toList, 0⟩)).map Prod.fst

/-- In a document a number is read as it is from its own text. -/
theorem outcome_readScalar_number {number : Json} (isSigned : IsSigned number.write.toList) (fuel : Nat)
    {rest : List Char} (delimited : Delimited rest) (offset : Nat) :
    outcome (readScalar fuel ⟨number.write.toList ++ rest, offset⟩) =
      (rereadNumber number).map fun value => (value, rest) := by
  rcases settles_readScalar isSigned with ⟨value?, gives⟩
  have alone := gives 0 [] 0 delimited_nil
  rw [List.append_nil] at alone
  rw [gives fuel rest offset delimited, rereadNumber, alone]
  cases value? <;> rfl

/-! ## Integers -/

theorem le_ofDigitChars (digits : List Char) (start : Nat) :
    start ≤ Nat.ofDigitChars 10 digits start := by
  induction digits generalizing start with
  | nil => exact Nat.le_refl start
  | cons c more ih =>
      rw [Nat.ofDigitChars_cons]
      exact Nat.le_trans (by omega) (ih _)

/-- Digits of a number that 64 bits can hold are taken in. -/
theorem absorbDigits_of_lt {digits : List Char} {start : Nat}
    (fits : Nat.ofDigitChars 10 digits start < Decimal.capacity 64) :
    absorbDigits start digits = (Nat.ofDigitChars 10 digits start, []) := by
  induction digits generalizing start with
  | nil => rfl
  | cons c more ih =>
      rw [Nat.ofDigitChars_cons] at fits ⊢
      rw [absorbDigits]
      simp only [Nat.lt_of_le_of_lt (le_ofDigitChars more _) fits, if_true]
      exact ih fits

/-- Of the digits of a greater number some are left. -/
theorem absorbDigits_of_le {digits : List Char} {start : Nat} (small : start < Decimal.capacity 64)
    (exceeds : Decimal.capacity 64 ≤ Nat.ofDigitChars 10 digits start) :
    (absorbDigits start digits).2 ≠ [] := by
  induction digits generalizing start with
  | nil => exact absurd small (Nat.not_lt.mpr exceeds)
  | cons c more ih =>
      rw [Nat.ofDigitChars_cons] at exceeds
      rw [absorbDigits]
      split
      · next still => exact ih still exceeds
      · simp

/-- A positive number is not written with a zero in front. -/
theorem head_toDigits_ne_zero {n : Nat} (positive : 0 < n) : (Nat.toDigits 10 n).head? ≠ some '0' := by
  induction n using Nat.strongRecOn with
  | ind n ih =>
      by_cases small : n < 10
      · rw [Nat.toDigits_of_lt_base small]
        have digit : ∀ m < 10, 0 < m → [Nat.digitChar m].head? ≠ some '0' := by decide
        exact digit n small positive
      · have earlier := ih (n / 10) (by omega) (by omega)
        rcases List.exists_cons_of_ne_nil (Nat.toDigits_ne_nil (b := 10) (n := n / 10)) with
          ⟨first, more, shape⟩
        rw [Nat.toDigits_of_base_le (by decide) (by omega), shape]
        rwa [shape] at earlier

theorem not_hasLeadingZero_toDigits (n : Nat) : ¬ HasLeadingZero (Nat.toDigits 10 n) := by
  intro leading
  rcases leading with ⟨c, more, shape⟩
  rcases Nat.eq_zero_or_pos n with rfl | positive
  · simp at shape
  · exact head_toDigits_ne_zero positive (by rw [shape]; rfl)

/-- The digits of a number are taken in as a whole if 64 bits can hold it. -/
theorem absorbDigits_toDigits (n : Nat) :
    if n < Decimal.capacity 64 then absorbDigits 0 (Nat.toDigits 10 n) = (n, [])
    else (absorbDigits 0 (Nat.toDigits 10 n)).2 ≠ [] := by
  have digits : Nat.ofDigitChars 10 (Nat.toDigits 10 n) 0 = n := Nat.ofDigitChars_ten_toDigits
  split
  · next fits => rw [absorbDigits_of_lt (digits.symm ▸ fits), digits]
  · next exceeds =>
    exact absorbDigits_of_le (by decide) (by omega)

theorem outcome_floatOf_ne_int (negative : Bool) (significand : Nat) (exponent : Int) (cursor : Cursor)
    (n : Int) :
    (outcome (floatOf negative significand exponent cursor)).map Prod.fst ≠ some (.int n) := by
  unfold floatOf
  split <;> simp

/-- What is read from the digits of a number is an integer if it is in the range of one. -/
theorem outcome_readNumber_toDigits_iff {n : Nat} {negative : Bool} {value : Int} {offset : Nat} :
    (outcome (readNumber negative ⟨Nat.toDigits 10 n, offset⟩)).map Prod.fst = some (.int value) ↔
      if negative then 0 < n ∧ n ≤ Decimal.capacity 63 ∧ -(n : Int) = value
      else n < Decimal.capacity 64 ∧ (n : Int) = value := by
  have read := readNumber_eq (areDigits_toDigits n) (not_hasLeadingZero_toDigits n)
    delimited_nil.not_isDigit negative offset
  rw [List.append_nil, afterWhole_of_delimited delimited_nil] at read
  have absorbed := absorbDigits_toDigits n
  rw [read]
  split at absorbed
  · next fits =>
    rw [absorbed]
    cases negative with
    | false => simp [wholeNumber, fits]
    | true =>
        by_cases outside : n = 0 ∨ Decimal.capacity 63 < n
        · have isFloat : wholeNumber true n [] ⟨[], offset + (Nat.toDigits 10 n).length⟩ =
              floatOf true n 0 ⟨[], offset + (Nat.toDigits 10 n).length⟩ := by
            simp [wholeNumber, outside]
          rw [isFloat]
          exact iff_of_false (outcome_floatOf_ne_int _ _ _ _ _) (by simp; omega)
        · have isInt : wholeNumber true n [] ⟨[], offset + (Nat.toDigits 10 n).length⟩ =
              .ok (.int (-(n : Int)), ⟨[], offset + (Nat.toDigits 10 n).length⟩) := by
            simp [wholeNumber, outside]
          have inside : 0 < n ∧ n ≤ Decimal.capacity 63 := by omega
          simp [isInt, inside]
  · next exceeds =>
    have smaller : Decimal.capacity 63 < Decimal.capacity 64 := by decide
    rw [wholeNumber_of_ne_nil absorbed]
    exact iff_of_false (outcome_floatOf_ne_int _ _ _ _ _) (by split <;> omega)

/-- Exactly the integers between the least one of 64 bits with a sign and the greatest one without are
read back. -/
theorem rereadNumber_int_iff (n : Int) :
    rereadNumber (.int n) = some (.int n) ↔
      -(Decimal.capacity 63 : Int) ≤ n ∧ n < Decimal.capacity 64 := by
  rw [rereadNumber, toList_write_int]
  split
  · next positive =>
    rcases List.exists_cons_of_ne_nil (Nat.toDigits_ne_nil (b := 10) (n := n.toNat)) with
      ⟨first, more, shape⟩
    have isDigit : first.isDigit = true :=
      (areDigits_toDigits n.toNat).digits first (by simp [shape])
    rw [shape, readScalar_of_isDigit isDigit, ← shape, outcome_readNumber_toDigits_iff]
    simp only [Bool.false_eq_true, if_false]
    omega
  · next negative =>
    have read : readScalar 0 ⟨'-' :: Nat.toDigits 10 (-n).toNat, 0⟩ =
        readNumber true ⟨Nat.toDigits 10 (-n).toNat, 1⟩ := rfl
    rw [read, outcome_readNumber_toDigits_iff]
    simp only [if_true]
    omega

end AccessControl.Json
