import EventDispatch.Text.Json.Grammar

/-!
# Reading JSON

A reader of the grammar.  Each function reads a part from the front of a text and gives what is
left of it.  A number is read as far as the characters go that numbers are made of, since none
of them may stand behind one.

The functions for values within values take the number of levels that they may still go down;
`read?` gives them twice as many as the text has characters, so that no text needs more.
-/

namespace EventDispatch.Text.Json

/-- A text without the blanks at its front. -/
def skip (text : List Char) : List Char :=
  text.dropWhile isBlank

/-! ## Strings -/

/-- The value of the four hexadecimal digits at the front of a text. -/
def codeUnit? : List Char → Option (Nat × List Char)
  | a :: b :: c :: d :: rest => do
      let i ← hexValue? a
      let j ← hexValue? b
      let k ← hexValue? c
      let l ← hexValue? d
      return (16 * (16 * (16 * i + j) + k) + l, rest)
  | _ => none

/-- The second one of a pair of surrogates at the front of a text. -/
def lowSurrogate? : List Char → Option (Nat × List Char)
  | '\\' :: 'u' :: rest => (codeUnit? rest).filter fun (low, _) => isLowSurrogate low
  | _ => none

/-- The character that the escape of a code point at the front of a text stands for, behind its
first two characters. -/
def point? (text : List Char) : Option (Char × List Char) := do
  let (point, rest) ← codeUnit? text
  if isHighSurrogate point then
    let (low, rest) ← lowSurrogate? rest
    return (ofSurrogates point low, rest)
  else if isLowSurrogate point then none
  else return (Char.ofNat point, rest)

/-- The character of a string that is written at the front of a text. -/
def character? : List Char → Option (Char × List Char)
  | [] => none
  | '\\' :: rest =>
      match rest with
      | [] => none
      | 'u' :: rest => point? rest
      | letter :: rest => (shortEscape? letter).map fun c => (c, rest)
  | c :: rest => if c = '"' ∨ c.toNat < 32 then none else some (c, rest)

/-- The characters of a string up to its end, of which there are fewer than the bound. -/
def charactersAtMost? : Nat → List Char → Option (List Char × List Char)
  | 0, _ => none
  | bound + 1, text =>
      match text with
      | '"' :: rest => some ([], rest)
      | text => do
          let (c, rest) ← character? text
          let (others, rest) ← charactersAtMost? bound rest
          return (c :: others, rest)

/-- A string behind its opening quote. -/
def string? (text : List Char) : Option (String × List Char) :=
  (charactersAtMost? text.length text).map fun (value, rest) => (String.ofList value, rest)

/-! ## Numbers -/

/-- The text is made of decimal digits, and of at least one. -/
def isDigits (text : List Char) : Bool :=
  !text.isEmpty && text.all Char.isDigit

/-- The digits have no zero in front. -/
def isWhole (text : List Char) : Bool :=
  isDigits text && (text.head? != some '0' || text == ['0'])

/-- A text without the sign at its front. -/
def dropSign : List Char → List Char
  | '+' :: rest => rest
  | '-' :: rest => rest
  | text => text

/-- The text is an exponent, or nothing. -/
def isExponent : List Char → Bool
  | [] => true
  | mark :: rest => (mark == 'e' || mark == 'E') && isDigits (dropSign rest)

/-- The text is a fraction and an exponent, each of which may be left out. -/
def isTail : List Char → Bool
  | '.' :: rest =>
      isDigits (rest.takeWhile Char.isDigit) && isExponent (rest.dropWhile Char.isDigit)
  | text => isExponent text

/-- The number that a text without its minus sign is. -/
def unsigned? (negative : Bool) (text : List Char) : Option Value :=
  let whole := text.takeWhile Char.isDigit
  let tail := text.dropWhile Char.isDigit
  let size := Nat.ofDigitChars 10 whole 0
  if !isWhole whole then none
  else if tail.isEmpty then some (.whole (if negative then -size else size))
  else if isTail tail then
    some (.number (String.ofList (if negative then '-' :: text else text)))
  else none

/-- The number that a text is. -/
def numeral? : List Char → Option Value
  | '-' :: rest => unsigned? true rest
  | text => unsigned? false text

/-- A character that numbers are made of. -/
def isNumeral (c : Char) : Bool :=
  c.isDigit || c == '-' || c == '+' || c == '.' || c == 'e' || c == 'E'

/-- A number. -/
def number? (text : List Char) : Option (Value × List Char) :=
  (numeral? (text.takeWhile isNumeral)).map fun value => (value, text.dropWhile isNumeral)

/-! ## Values -/

/-- A value that is a word. -/
def word? : List Char → Option (Value × List Char)
  | 'n' :: 'u' :: 'l' :: 'l' :: rest => some (.null, rest)
  | 't' :: 'r' :: 'u' :: 'e' :: rest => some (.truth true, rest)
  | 'f' :: 'a' :: 'l' :: 's' :: 'e' :: rest => some (.truth false, rest)
  | _ => none

/-- The key of a member with the colon behind it. -/
def key? (text : List Char) : Option (String × List Char) :=
  match skip text with
  | '"' :: rest => do
      let (key, rest) ← string? rest
      match skip rest with
      | ':' :: rest => return (key, rest)
      | _ => none
  | _ => none

mutual

/-- A value. -/
def value? : Nat → List Char → Option (Value × List Char)
  | 0, _ => none
  | levels + 1, text =>
      match text with
      | '"' :: rest => (string? rest).map fun (value, rest) => (.string value, rest)
      | '[' :: rest =>
          match skip rest with
          | ']' :: rest => some (.list [], rest)
          | rest => (elements? levels rest).map fun (values, rest) => (.list values, rest)
      | '\x7b' :: rest =>
          match skip rest with
          | '\x7d' :: rest => some (.object [], rest)
          | rest => (members? levels rest).map fun (entries, rest) => (.object entries, rest)
      | text => (word? text).or (number? text)

/-- The elements of an array with its end. -/
def elements? : Nat → List Char → Option (List Value × List Char)
  | 0, _ => none
  | levels + 1, text => do
      let (value, rest) ← value? levels (skip text)
      match skip rest with
      | ',' :: rest =>
          let (values, rest) ← elements? levels rest
          return (value :: values, rest)
      | ']' :: rest => return ([value], rest)
      | _ => none

/-- The members of an object with its end. -/
def members? : Nat → List Char → Option (List (String × Value) × List Char)
  | 0, _ => none
  | levels + 1, text => do
      let (key, rest) ← key? text
      let (value, rest) ← value? levels (skip rest)
      match skip rest with
      | ',' :: rest =>
          let (entries, rest) ← members? levels rest
          return ((key, value) :: entries, rest)
      | '\x7d' :: rest => return ([(key, value)], rest)
      | _ => none

end

/-- The value that a text stands for. -/
def read? (text : String) : Option Value :=
  match value? (2 * text.toList.length) (skip text.toList) with
  | some (value, rest) => if (skip rest).isEmpty then some value else none
  | none => none

end EventDispatch.Text.Json
