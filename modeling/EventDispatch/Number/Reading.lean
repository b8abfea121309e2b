import EventDispatch.Number.Binary

/-!
# Reading numbers

Whole numbers are digits behind an optional sign and must lie in the range that
is asked for.  Floating-point numbers are digits with an optional point and
exponent, or one of the words for what is not finite, in any letter case.
-/

namespace EventDispatch.Number

/-! ## Digits -/

/-- The value of decimal digits. -/
def ofDigits (digits : List Char) : Nat :=
  digits.foldl (fun value c => 10 * value + (c.toNat - '0'.toNat)) 0

/-- The number of decimal digits times a power of ten.  Powers far outside of
the format are not computed: ten to the `top` lies above the decimal and ten to
the `top - 1` not. -/
def Format.ofDecimal (format : Format) (negative : Bool) (digits : List Char) (exponent : Int) :
    Floating :=
  let digits := digits.dropWhile (· == '0')
  let top := digits.length + exponent
  if digits.isEmpty || top < format.least - 1 then .finite negative 0 format.least
  else if format.greatest + format.precision < top - 1 then .infinite negative
  else format.round negative (.ofPower (ofDigits digits) 10 exponent)

/-! ## Texts -/

/-- The sign in front of a number and what follows it. -/
def splitSign : List Char → Bool × List Char
  | '-' :: rest => (true, rest)
  | '+' :: rest => (false, rest)
  | text => (false, text)

/-- Digits, at least one. -/
def digits? (text : List Char) : Option Nat :=
  if text ≠ [] ∧ text.all Char.isDigit then some (ofDigits text) else none

/-- A whole number between bounds.  Where no number is negative, a minus sign is
not read. -/
def readWhole? (least greatest : Int) (text : List Char) : Option Int := do
  let (negative, rest) := splitSign text
  if negative ∧ 0 ≤ least then none
  else
    let size ← digits? rest
    let value : Int := if negative then -size else size
    if least ≤ value ∧ value ≤ greatest then some value else none

/-- A power of ten behind its letter. -/
def readExponent? : List Char → Option Int
  | [] => some 0
  | c :: rest =>
      if c == 'e' || c == 'E' then
        let (negative, digits) := splitSign rest
        (digits? digits).map fun size => if negative then -size else size
      else none

/-- A finite number without its sign. -/
def readFinite? (format : Format) (negative : Bool) (text : List Char) : Option Floating :=
  let whole := text.takeWhile Char.isDigit
  let (behind, rest) := match text.dropWhile Char.isDigit with
    | '.' :: rest => (rest.takeWhile Char.isDigit, rest.dropWhile Char.isDigit)
    | rest => ([], rest)
  if whole.isEmpty && behind.isEmpty then none
  else (readExponent? rest).map fun power =>
    format.ofDecimal negative (whole ++ behind) (power - behind.length)

/-- A floating-point number. -/
def readFloating? (format : Format) (text : List Char) : Option Floating :=
  let (negative, rest) := splitSign text
  match String.ofList (rest.map Char.toLower) with
  | "nan" => some .nan
  | "inf" => some (.infinite negative)
  | "infinity" => some (.infinite negative)
  | _ => readFinite? format negative rest

end EventDispatch.Number
