/-!
# Binary floating-point numbers

A floating-point number is held as what it stands for, a mantissa times a power
of two, so that every question about it is one about whole numbers.
`Format.round` takes an exact fraction to the nearest number of a format.
-/

namespace EventDispatch.Number

/-! ## Fractions -/

/-- A fraction without sign; its denominator is never zero. -/
structure Ratio where
  numerator : Nat
  denominator : Nat
  deriving DecidableEq

namespace Ratio

/-- A whole number times a power of a base. -/
def ofPower (value base : Nat) (exponent : Int) : Ratio :=
  if 0 ≤ exponent then { numerator := value * Nat.pow base exponent.toNat, denominator := 1 }
  else { numerator := value, denominator := Nat.pow base (-exponent).toNat }

/-- The fraction divided by a power of a base. -/
def dividedByPower (value : Ratio) (base : Nat) (exponent : Int) : Ratio :=
  if 0 ≤ exponent then
    { value with denominator := value.denominator * Nat.pow base exponent.toNat }
  else { value with numerator := value.numerator * Nat.pow base (-exponent).toNat }

/-- The whole part. -/
def floor (value : Ratio) : Nat := value.numerator / value.denominator

/-- The nearest whole number, of two the even one. -/
def nearest (value : Ratio) : Nat :=
  let whole := value.floor
  let rest := value.numerator % value.denominator
  if 2 * rest < value.denominator then whole
  else if value.denominator < 2 * rest then whole + 1
  else whole + whole % 2

end Ratio

/-! ## Formats -/

/-- A floating-point number. -/
inductive Floating where
  | nan
  | infinite (negative : Bool)
  | finite (negative : Bool) (mantissa : Nat) (exponent : Int)
  deriving DecidableEq

/-- A format: how many binary digits a mantissa has, and the exponents of its
last digit. -/
structure Format where
  precision : Nat
  least : Int
  greatest : Int

namespace Format

/-- Numbers of 32 bits. -/
def single : Format where
  precision := 24
  least := -149
  greatest := 104

/-- Numbers of 64 bits. -/
def double : Format where
  precision := 53
  least := -1074
  greatest := 971

/-- The least number with too many binary digits for a mantissa. -/
def limit (format : Format) : Nat := Nat.pow 2 format.precision

/-- The number with a mantissa of at most one digit too many, which then is a power of two. -/
def fit (format : Format) (negative : Bool) (mantissa : Nat) (exponent : Int) : Floating :=
  let (mantissa, exponent) :=
    if mantissa < format.limit then (mantissa, exponent)
    else (mantissa / 2, exponent + 1)
  if format.greatest < exponent then .infinite negative
  else .finite negative mantissa exponent

/-- The number of a format nearest to a fraction, of two the one whose mantissa
is even.  A mantissa is as long as the format allows unless the exponent is the
least one. -/
def round (format : Format) (negative : Bool) (value : Ratio) : Floating :=
  if value.numerator = 0 then .finite negative 0 format.least
  else
    let guess : Int :=
      (value.numerator.log2 : Int) - value.denominator.log2 - format.precision
    let start := max guess format.least
    let exponent :=
      if (value.dividedByPower 2 start).floor < format.limit then start else start + 1
    format.fit negative (value.dividedByPower 2 exponent).nearest exponent

/-- The number of a format nearest to one of another format. -/
def convert (format : Format) : Floating → Floating
  | .finite negative mantissa exponent => format.round negative (.ofPower mantissa 2 exponent)
  | other => other

end Format

namespace Floating

/-- The numbers are equal: zeros of either sign are, and what is not a number
equals nothing. -/
def equal : Floating → Floating → Bool
  | infinite negative, infinite other => negative == other
  | finite negative mantissa exponent, finite negative' mantissa' exponent' =>
      (mantissa == 0 && mantissa' == 0) ||
        (negative == negative' && mantissa == mantissa' && exponent == exponent')
  | _, _ => false

end Floating

end EventDispatch.Number
