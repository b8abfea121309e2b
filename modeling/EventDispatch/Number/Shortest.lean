import EventDispatch.Number.Binary

/-!
# Shortest decimal digits

A number of a binary format stands for all reals that round to it.  Among the
decimals in that interval the shortest is written, and among those of the same
length the one nearest to the number.
-/

namespace EventDispatch.Number

/-- Decimal digits times a power of ten. -/
structure Decimal where
  digits : Nat
  exponent : Int
  deriving DecidableEq

/-- Which of two decimals is taken when both are equally near. -/
inductive Tie where
  | even
  | up
  deriving DecidableEq

/-- The reals that round to a number, in quarters of the unit of its last digit. -/
structure Interval where
  low : Nat
  value : Nat
  high : Nat
  closed : Bool
  exponent : Int

namespace Interval

/-- The interval of a mantissa.  It reaches half a unit to both sides, and only
a quarter downwards where the numbers below lie closer together.  Its ends round
to the number if the mantissa is even. -/
def ofMantissa (format : Format) (mantissa : Nat) (exponent : Int) : Interval :=
  let below :=
    if 2 * mantissa = format.limit ∧ format.least < exponent then 1 else 2
  { low := 4 * mantissa - below, value := 4 * mantissa, high := 4 * mantissa + 2
    closed := mantissa % 2 == 0, exponent := exponent - 2 }

/-- The unit that a power of ten and the unit of an interval both are multiples of. -/
def scale (interval : Interval) (power : Int) : Nat × Nat :=
  let tens := Ratio.ofPower 1 10 power
  let twos := Ratio.ofPower 1 2 interval.exponent
  (twos.numerator * tens.denominator, tens.numerator * twos.denominator)

/-- The multiple of a power of ten in the interval that is nearest to its value,
if there is one.  Only the two next to the value need to be looked at. -/
def onGrid (tie : Tie) (interval : Interval) (power : Int) : Option Nat :=
  let (unit, step) := interval.scale power
  let value := interval.value * unit
  let holds (multiple : Nat) : Bool :=
    let point := multiple * step
    if interval.closed then interval.low * unit ≤ point && point ≤ interval.high * unit
    else interval.low * unit < point && point < interval.high * unit
  let under := value / step
  let above := under + 1
  let down := value - under * step
  let up := above * step - value
  match decide (0 < under) && holds under, holds above with
  | false, false => none
  | true, false => some under
  | false, true => some above
  | true, true =>
      if down < up then some under
      else if up < down then some above
      else match tie with
        | .up => some above
        | .even => some (under + under % 2)

/-- A power of ten above all reals that round to a number. -/
def topPower (interval : Interval) : Int :=
  ((interval.high.log2 + 1 : Int) + interval.exponent) * 30103 / 100000 + 1

end Interval

/-- The digits without zeros at the end. -/
def Decimal.strip : Nat → Decimal → Decimal
  | 0, decimal => decimal
  | bound + 1, decimal =>
      if decimal.digits ≠ 0 ∧ decimal.digits % 10 = 0 then
        strip bound { digits := decimal.digits / 10, exponent := decimal.exponent + 1 }
      else decimal

/-- The number of powers of ten to look at: seventeen digits tell all numbers of
64 bits apart, and the first power may lie above them. -/
def gridCount : Nat := 20

/-- The shortest decimal that rounds to a number. -/
def shortest (tie : Tie) (format : Format) (mantissa : Nat) (exponent : Int) : Decimal :=
  if mantissa = 0 then { digits := 0, exponent := 0 }
  else
    let interval := Interval.ofMantissa format mantissa exponent
    let grids := (List.range gridCount).map fun (step : Nat) => interval.topPower - step
    match grids.findSome? fun power =>
        (interval.onGrid tie power).map fun digits => Decimal.mk digits power with
    | some decimal => decimal.strip gridCount
    | none => { digits := 0, exponent := 0 }

end EventDispatch.Number
