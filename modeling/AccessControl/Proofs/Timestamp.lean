import AccessControl.Timestamp
import Mathlib.Tactic.Ring

/-!
# Reading written points in time

A written point in time is read part by part, and no part is blank at its start.  Each number is
written with as many digits as are read for it, so reading gives back exactly the point in time that
was written.
-/

namespace AccessControl

namespace Timestamp

variable {count limit value n : Nat} {rest : List Char}

/-! ## Numbers -/

theorem digit?_ofNat {digit : Nat} (small : digit < 10) :
    digit? (Char.ofNat ('0'.toNat + digit)) = some digit := by
  have each : ∀ digit : Fin 10, digit? (Char.ofNat ('0'.toNat + digit.val)) = some digit.val := by
    decide
  exact each ⟨digit, small⟩

theorem isBlank_eq_false_of_digit? {c : Char} (isDigit : (digit? c).isSome = true) :
    Text.isBlank c = false := by
  have inRange : c.isDigit = true := by
    rw [digit?] at isDigit
    split at isDigit
    · assumption
    · cases isDigit
  simp only [Char.isDigit, Bool.and_eq_true, decide_eq_true_eq, UInt32.le_iff_toNat_le] at inRange
  have low : 48 ≤ c.toNat := inRange.1
  have high : c.toNat ≤ 57 := inRange.2
  simp only [Text.isBlank, Text.blankRanges, List.any_cons, List.any_nil, Bool.or_false,
    Bool.or_eq_false_iff, Bool.and_eq_false_iff, decide_eq_false_iff_not]
  omega

theorem length_padded : (padded count n).length = count := by
  induction count generalizing n with
  | zero => rfl
  | succ count ih => simp [padded, ih]

theorem isSome_digit?_of_mem_padded {c : Char} (member : c ∈ padded count n) :
    (digit? c).isSome = true := by
  induction count generalizing n with
  | zero => cases member
  | succ count ih =>
      rw [padded, List.mem_append, List.mem_singleton] at member
      rcases member with before | rfl
      · exact ih before
      · rw [digit?_ofNat (Nat.mod_lt _ (by decide))]
        rfl

theorem takeDigits_padded :
    takeDigits (count + limit) value (padded count n ++ rest) =
      takeDigits limit (value * 10 ^ count + n % 10 ^ count) rest := by
  induction count generalizing limit n rest with
  | zero => simp [padded, Nat.mod_one]
  | succ count ih =>
      have last : digit? (Char.ofNat ('0'.toNat + n % 10)) = some (n % 10) :=
        digit?_ofNat (Nat.mod_lt _ (by decide))
      have shifted : 10 * (value * 10 ^ count + n / 10 % 10 ^ count) + n % 10 =
          value * 10 ^ (count + 1) + n % 10 ^ (count + 1) := by
        rw [Nat.pow_succ, Nat.mul_comm (10 ^ count) 10, Nat.mod_mul]
        ring
      rw [padded, List.append_assoc, Nat.add_right_comm, Nat.add_assoc, ih, List.singleton_append,
        takeDigits, last]
      exact congrArg (takeDigits limit · rest) shifted

/-- A number is read back if the digits stop where it ends. -/
theorem number_padded (limit : Nat) (some : 0 < count) (fits : n < 10 ^ count) (small : n < Decimal.capacity 63)
    (stops : takeDigits limit n rest = (n, rest)) :
    number (count + limit) (padded count n ++ rest) = .ok (n, rest) := by
  obtain ⟨first, others, shape⟩ :=
    List.exists_cons_of_length_pos (l := padded count n) (by rwa [length_padded])
  have isDigit : (digit? first).isNone = false := by
    rw [Option.isNone_eq_false_iff]
    exact isSome_digit?_of_mem_padded (shape ▸ List.mem_cons_self ..)
  have taken : takeDigits (count + limit) 0 (padded count n ++ rest) = (n, rest) := by
    rw [takeDigits_padded, Nat.zero_mul, Nat.zero_add, Nat.mod_eq_of_lt fits, stops]
  rw [shape, List.cons_append] at taken ⊢
  simp only [number, isDigit, taken, small, Bool.false_eq_true, if_false, if_true]

/-! ## Parts -/

theorem trimStartChars_of_not_isBlank {c : Char} (notBlank : Text.isBlank c = false) :
    Text.trimStartChars (c :: rest) = c :: rest := by
  rw [Text.trimStartChars, List.dropWhile_cons_of_neg (by simp [notBlank])]

theorem trimStartChars_padded (some : 0 < count) :
    Text.trimStartChars (padded count n ++ rest) = padded count n ++ rest := by
  obtain ⟨first, others, shape⟩ :=
    List.exists_cons_of_length_pos (l := padded count n) (by rwa [length_padded])
  rw [shape, List.cons_append]
  exact trimStartChars_of_not_isBlank
    (isBlank_eq_false_of_digit? (isSome_digit?_of_mem_padded (shape ▸ List.mem_cons_self ..)))

theorem part_padded (low high : Nat) (inRange : low ≤ n ∧ n ≤ high) (two : n < 100) :
    part low high (padded 2 n ++ rest) = .ok (n, rest) := by
  have read : number 2 (padded 2 n ++ rest) = .ok (n, rest) :=
    number_padded 0 (by decide) (by omega) (by simp [Decimal.capacity]; omega) rfl
  rw [part, trimStartChars_padded (by decide), read]
  simp only [bind, Except.bind, inRange, and_self, if_true]
  rfl

theorem expect_cons {c : Char} (notBlank : Text.isBlank c = false) :
    expect c (c :: rest) = .ok rest := by
  rw [expect, trimStartChars_of_not_isBlank notBlank]
  exact if_pos rfl

theorem takeDigits_cons_of_digit?_eq_none {c : Char} (noDigit : digit? c = none) :
    takeDigits limit value (c :: rest) = (value, c :: rest) := by
  cases limit with
  | zero => rfl
  | succ limit => rw [takeDigits, noDigit]

/-- The digits of a year with a sign, which are read to their end. -/
theorem number_signed (year : Int) (rest : List Char) (bounds : year.natAbs < 1000000) :
    number (padded (max 4 (toString year.natAbs).length) year.natAbs ++ '-' :: rest).length
        (padded (max 4 (toString year.natAbs).length) year.natAbs ++ '-' :: rest) =
      .ok (year.natAbs, '-' :: rest) := by
  have enough : year.natAbs < 10 ^ max 4 (toString year.natAbs).length :=
    (Nat.length_repr_le_iff (by omega)).mp (Nat.le_max_right ..)
  rw [List.length_append, length_padded]
  exact number_padded _ (by omega) enough (by simp [Decimal.capacity]; omega)
    (takeDigits_cons_of_digit?_eq_none (by decide))

/-- Up to four digits without a sign in front. -/
theorem readYear_padded (fits : n < 10000) :
    readYear (padded 4 n ++ rest) = .ok ((n : Int), rest) := by
  have read : number 4 (padded 4 n ++ rest) = .ok (n, rest) :=
    number_padded 0 (by decide) (by omega) (by simp [Decimal.capacity]; omega) rfl
  have noSign : ∀ c digits, padded 4 n ++ rest = c :: digits → (digit? c).isSome = true := by
    intro c digits shape
    obtain ⟨first, others, head⟩ :=
      List.exists_cons_of_length_pos (l := padded 4 n) (by rw [length_padded]; decide)
    rw [head, List.cons_append] at shape
    obtain rfl := (List.cons.inj shape).1
    exact isSome_digit?_of_mem_padded (head ▸ List.mem_cons_self ..)
  have inBounds : -2147483648 ≤ (n : Int) ∧ (n : Int) < 2147483648 := by omega
  rw [readYear, trimStartChars_padded (by decide)]
  split
  · next digits shape => cases noSign _ _ shape
  · next digits shape => cases noSign _ _ shape
  · simp only [read, Except.map, bind, Except.bind, inBounds, and_self, if_true]
    rfl

theorem readYear_yearChars {year : Int} (low : -262143 ≤ year) (high : year ≤ 262142) :
    readYear (yearChars year ++ '-' :: rest) = .ok (year, '-' :: rest) := by
  have inBounds : -2147483648 ≤ year ∧ year < 2147483648 := by omega
  have signed := number_signed year rest (by omega)
  rw [yearChars]
  split
  · next four =>
    rw [readYear_padded (by omega), Int.toNat_of_nonneg four.1]
  · next other =>
    dsimp only
    split
    · next negative =>
      have value : -(year.natAbs : Int) = year := by omega
      rw [List.cons_append, readYear, trimStartChars_of_not_isBlank (by decide)]
      simp only [signed, Except.map, bind, Except.bind, value, inBounds, and_self, if_true]
      rfl
    · next positive =>
      have value : (year.natAbs : Int) = year := by omega
      rw [List.cons_append, readYear, trimStartChars_of_not_isBlank (by decide)]
      simp only [signed, Except.map, bind, Except.bind, value, inBounds, and_self, if_true]
      rfl

/-- A fraction is read with the zeros that it was written without. -/
theorem readFraction_padded (some : 0 < count) (nine : count ≤ 9) (fits : value < 10 ^ count) :
    readFraction ('.' :: padded count value ++ ['Z']) = .ok (value * 10 ^ (9 - count), ['Z']) := by
  have below : value < 10 ^ 9 := fits.trans_le (Nat.pow_le_pow_right (by decide) nine)
  have read : number 9 (padded count value ++ ['Z']) = .ok (value, ['Z']) := by
    rw [← Nat.add_sub_cancel' nine]
    exact number_padded _ some fits (by simp [Decimal.capacity]; omega)
      (takeDigits_cons_of_digit?_eq_none (by decide))
  simp only [List.cons_append, readFraction, read, bind, Except.bind, List.length_append,
    length_padded, List.length_singleton, Nat.add_sub_cancel]
  rfl

theorem readFraction_fractionChars (fits : n < 1000000000) :
    readFraction (fractionChars n ++ ['Z']) = .ok (n, ['Z']) := by
  rw [fractionChars]
  split
  · next zero => rw [zero]; rfl
  · split
    · rw [readFraction_padded (by decide) (by decide) (by omega)]
      exact congrArg (fun whole => Except.ok (whole, ['Z'])) (by omega)
    · split
      · rw [readFraction_padded (by decide) (by decide) (by omega)]
        exact congrArg (fun whole => Except.ok (whole, ['Z'])) (by omega)
      · rw [readFraction_padded (by decide) (by decide) (by omega)]
        exact congrArg (fun whole => Except.ok (whole, ['Z'])) (by omega)

theorem ofParts?_eq_some (t : Timestamp) :
    ofParts? t.year t.month t.day t.hour t.minute t.second t.nanosecond = some t :=
  dif_pos t.valid

theorem daysOfMonth_le (year : Int) (month : Nat) : daysOfMonth year month ≤ 31 := by
  unfold daysOfMonth
  split
  · cases isLeapYear year <;> decide
  all_goals decide

/-- A written point in time names the point in time that it was written for. -/
theorem parse_text (t : Timestamp) : parse t.text = .ok t := by
  obtain ⟨⟨low, high⟩, inYear, inMonth, inDay, inHour, inMinute, inSecond⟩ := t.valid
  have days : t.day ≤ 31 := inMonth.2.trans (daysOfMonth_le ..)
  simp only [text, parse, String.toList_ofList, List.append_assoc, List.cons_append]
  simp only [readYear_yearChars low high, expect_cons (c := '-') (by decide),
    part_padded 1 12 inYear (by omega), part_padded 1 31 ⟨inMonth.1, days⟩ (by omega), bind,
    Except.bind]
  simp only [or_true, true_or, if_true, pure, Except.pure, expect_cons (c := ':') (by decide),
    part_padded 0 23 (n := t.hour) (by omega) (by omega),
    part_padded 0 59 (n := t.minute) (by omega) (by omega),
    part_padded 0 60 (n := t.second) (by omega) (by omega), readFraction_fractionChars inSecond]
  have universal : readOffset (Text.trimStartChars ['Z']) = .ok (0, []) := by decide
  have nothingLeft : (!(Text.trimStartChars []).isEmpty) = false := by decide
  have inUtc : ¬86400 ≤ (0 : Int).natAbs := by decide
  simp only [universal, nothingLeft, inUtc, Bool.false_eq_true, if_false, ofParts?_eq_some, aheadBy?,
    if_true]

end Timestamp

end AccessControl
