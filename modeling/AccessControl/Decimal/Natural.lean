/-!
# Bounded numbers in decimal

Reading a number that has to stay below a bound.  The text is read from the left, and the first
thing that is wrong with it is reported: a character that is no digit, or a digit with which the
number leaves the bound.
-/

namespace AccessControl.Decimal

/-- How many numbers so many bits can tell apart, and so the first number that they cannot hold. -/
def capacity (bits : Nat) : Nat := Nat.pow 2 bits

/-- Why a text is no number below the bound. -/
inductive NaturalFault where
  | noText
  | noDigit
  | tooLarge
  deriving DecidableEq, Repr

/-- The wording of a fault. -/
def NaturalFault.message : NaturalFault → String
  | .noText => "cannot parse integer from empty string"
  | .noDigit => "invalid digit found in string"
  | .tooLarge => "number too large to fit in target type"

/-- Reads digits behind a number. -/
def readDigits (bound : Nat) : (value : Nat) → List Char → Except NaturalFault Nat
  | value, [] => .ok value
  | value, c :: rest =>
    if c.isDigit then
      let next := 10 * value + (c.toNat - '0'.toNat)
      if next < bound then readDigits bound next rest else .error .tooLarge
    else .error .noDigit

/-- The number below the bound that a text spells; a plus sign may precede its digits. -/
def natural (bound : Nat) (text : String) : Except NaturalFault Nat :=
  match text.toList with
  | [] => .error .noText
  | ['+'] => .error .noDigit
  | '+' :: digits => readDigits bound 0 digits
  | digits => readDigits bound 0 digits

example : natural 256 "+007" = .ok 7 := rfl
example : natural 256 "256x" = .error .tooLarge := rfl
example : natural 256 "25x6" = .error .noDigit := rfl

end AccessControl.Decimal
