import EventDispatch.Number.Shortest

/-!
# Writing numbers

How a floating-point number is written is a value, `Style`: which numbers are
written plainly and which with an exponent, whether a whole number shows a
point, and the words for what is not a number.
-/

namespace EventDispatch.Number

/-- A way of writing numbers. -/
structure Style where
  /-- The exponents of the first digit for which a number is written plainly. -/
  plain : Int → Bool
  /-- A whole number written plainly ends in a point and a zero. -/
  showsPoint : Bool
  tie : Tie
  nan : String
  infinity : String
  minusInfinity : String

namespace Style

/-- As many zeros. -/
def zeros (count : Int) : String := String.ofList (List.replicate count.toNat '0')

/-- A decimal without an exponent. -/
def writePlain (style : Style) (decimal : Decimal) : String :=
  let digits := toString decimal.digits
  let whole := digits.length + decimal.exponent
  if 0 ≤ decimal.exponent then
    digits ++ zeros decimal.exponent ++ (if style.showsPoint then ".0" else "")
  else if 0 < whole then
    String.ofList (digits.toList.take whole.toNat) ++ "." ++
      String.ofList (digits.toList.drop whole.toNat)
  else "0." ++ zeros (-whole) ++ digits

/-- A decimal with an exponent: one digit, a point and the others if there are
any, and the signed power of ten. -/
def writeScientific (decimal : Decimal) : String :=
  let digits := toString decimal.digits
  let power := digits.length - 1 + decimal.exponent
  let mantissa := match digits.toList with
    | first :: second :: rest => String.ofList (first :: '.' :: second :: rest)
    | short => String.ofList short
  let sign := if power < 0 then "-" else "+"
  mantissa ++ "e" ++ sign ++ toString power.natAbs

/-- A decimal. -/
def writeDecimal (style : Style) (decimal : Decimal) : String :=
  let power := (toString decimal.digits).length - 1 + decimal.exponent
  if decimal.digits = 0 || style.plain power then style.writePlain decimal
  else writeScientific decimal

/-- A number of 64 bits, in the fewest digits that read back as the same number. -/
def write (style : Style) : Floating → String
  | .nan => style.nan
  | .infinite false => style.infinity
  | .infinite true => style.minusInfinity
  | .finite negative mantissa exponent =>
      (if negative then "-" else "") ++
        style.writeDecimal (shortest style.tie .double mantissa exponent)

end Style

end EventDispatch.Number
