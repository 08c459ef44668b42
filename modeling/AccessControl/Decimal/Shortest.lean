/-!
# The shortest decimal of a double

A positive double is `significand * 2 ^ exponent`.  The reals that round to it form an interval
around it; its shortest decimal is the decimal with the fewest digits in that interval, and of
those the one nearest to the double.  For each number of digits only the two neighbours of the
double on that decimal grid can be meant, so they are the only candidates tried.  All comparisons
are between natural numbers.
-/

namespace AccessControl.Decimal

/-- A positive double as `significand * 2 ^ exponent`. -/
structure Binary where
  significand : Nat
  exponent : Int
  deriving DecidableEq, Repr

/-- The decimal `digits * 10 ^ exponent`. -/
structure Scientific where
  digits : Nat
  exponent : Int
  deriving DecidableEq, Repr

/-- A non-negative rational, as a numerator over a denominator that is never zero. -/
structure Ratio where
  numerator : Nat
  denominator : Nat
  deriving DecidableEq, Repr

/-- `a * 2 ^ e` as a ratio. -/
def Ratio.ofBinary (a : Nat) (e : Int) : Ratio :=
  ⟨a * Nat.pow 2 e.toNat, Nat.pow 2 (-e).toNat⟩

/-- `a * 10 ^ e` as a ratio. -/
def Ratio.ofDecimal (a : Nat) (e : Int) : Ratio :=
  ⟨a * Nat.pow 10 e.toNat, Nat.pow 10 (-e).toNat⟩

/-- Whether the first ratio is smaller. -/
def Ratio.less (a b : Ratio) : Bool :=
  a.numerator * b.denominator < b.numerator * a.denominator

/-- The highest bit of the significand of a double, which its bits leave out unless the double is
too small to have it. -/
def hiddenBit : Nat := 0x10000000000000

/-- The magnitude of a double given by its bits without the sign; zero has no such form, and
neither have the infinities and the values that are no number. -/
def Binary.ofBits? (magnitude : Nat) : Option Binary :=
  let fraction := magnitude % hiddenBit
  let biased : Nat := magnitude / hiddenBit
  if magnitude = 0 ∨ biased = 2047 then none
  else if biased = 0 then some ⟨fraction, -1074⟩
  else some ⟨hiddenBit + fraction, (biased : Int) - 1075⟩

/-- The interval of the reals that round to the double: its lower end, its upper end, and whether
the ends belong to it. -/
def Binary.interval (b : Binary) : Ratio × Ratio × Bool :=
  let lower :=
    if b.significand = hiddenBit ∧ b.exponent ≠ -1074 then
      Ratio.ofBinary (4 * b.significand - 1) (b.exponent - 2)
    else Ratio.ofBinary (2 * b.significand - 1) (b.exponent - 1)
  (lower, Ratio.ofBinary (2 * b.significand + 1) (b.exponent - 1), b.significand % 2 == 0)

/-- Whether the decimal rounds to the double. -/
def Binary.covers (b : Binary) (candidate : Scientific) : Bool :=
  let value := Ratio.ofDecimal candidate.digits candidate.exponent
  let (lower, upper, ends) := b.interval
  if ends then !value.less lower && !upper.less value
  else lower.less value && value.less upper

/-- The largest power of ten that is not above the double, found from an estimate that is off by
at most a few. -/
def Binary.magnitude (b : Binary) : Int :=
  let value := Ratio.ofBinary b.significand b.exponent
  let estimate : Int := (b.exponent + Nat.log2 b.significand) * 30103 / 100000 - 2
  let steps := (List.range 6).filter fun (step : Nat) =>
    !value.less (Ratio.ofDecimal 1 (estimate + (step : Int)))
  estimate + (steps.length : Int) - 1

/-- The better of the two neighbours of the double on the grid of the given exponent, if one of
them rounds to it; a tie goes to the even digit. -/
def Binary.onGrid? (b : Binary) (exponent : Int) : Option Scientific :=
  let value := Ratio.ofBinary b.significand b.exponent
  let scaled : Ratio :=
    ⟨value.numerator * Nat.pow 10 (-exponent).toNat,
      value.denominator * Nat.pow 10 exponent.toNat⟩
  let below := scaled.numerator / scaled.denominator
  let twiceRest := 2 * (scaled.numerator % scaled.denominator)
  let lower : Scientific := ⟨below, exponent⟩
  let upper : Scientific := ⟨below + 1, exponent⟩
  let nearer :=
    if twiceRest < scaled.denominator then lower
    else if scaled.denominator < twiceRest then upper
    else if below % 2 = 0 then lower else upper
  let other := if nearer = lower then upper else lower
  if b.covers nearer then some nearer
  else if b.covers other then some other
  else none

/-- The shortest decimal that rounds to the double.  Seventeen digits always suffice. -/
def Binary.shortest (b : Binary) : Scientific :=
  let top := b.magnitude
  let grids := (List.range 18).filterMap fun (count : Nat) => b.onGrid? (top - (count : Int))
  grids.head?.getD ⟨b.significand, b.exponent⟩

/-- The decimal without trailing zeros in its digits. -/
def Scientific.reduced : (fuel : Nat) → Scientific → Scientific
  | 0, d => d
  | fuel + 1, d =>
    if d.digits ≠ 0 ∧ d.digits % 10 = 0 then
      Scientific.reduced fuel ⟨d.digits / 10, d.exponent + 1⟩
    else d

example : (Binary.mk 3 (-1)).shortest = ⟨15, -1⟩ := by decide +kernel
example : ((Binary.ofBits? 0x3FB999999999999A).map Binary.shortest) = some ⟨1, -1⟩ := by
  decide +kernel
example : ((Binary.ofBits? 1).map Binary.shortest) = some ⟨5, -324⟩ := by decide +kernel

end AccessControl.Decimal
