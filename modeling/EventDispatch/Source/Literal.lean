import EventDispatch.Text.Identifier

/-!
# Literals

The lengths of literals at the front of a text: quoted texts with their
escapes, raw texts, characters, and numbers.  Each function answers how many
characters of the text belong to the literal, or `none` when the text does not
start with one.
-/

namespace EventDispatch.Source

open Text.Identifier

/-! ## Identifiers and suffixes -/

/-- The length of the identifier at the front of a text. -/
def identLength? : List Char → Option Nat
  | [] => none
  | c :: rest => if isStart c then some (1 + (rest.takeWhile isContinue).length) else none

/-- The length of the suffix at the front of a text; it may be absent. -/
def suffixLength (text : List Char) : Nat :=
  (identLength? text).getD 0

/-- A text starts with another one. -/
def startsWith (pattern : String) (text : List Char) : Bool :=
  pattern.toList.isPrefixOf text

/-! ## Escapes -/

/-- The three alphabets of quoted literals: characters, bytes, and characters
other than NUL. -/
inductive Alphabet where
  | text
  | bytes
  | nulFree
  deriving DecidableEq

def isOctalDigit (c : Char) : Bool := '0' ≤ c && c ≤ '7'

def isHexDigit (c : Char) : Bool :=
  c.isDigit || ('a' ≤ c && c ≤ 'f') || ('A' ≤ c && c ≤ 'F')

/-- The value of a hexadecimal digit. -/
def hexValue (c : Char) : Nat :=
  if c.isDigit then c.toNat - '0'.toNat
  else if 'a' ≤ c then c.toNat - 'a'.toNat + 10
  else c.toNat - 'A'.toNat + 10

/-- The length of the digits and the brace that close a `\u` escape, and the
code point they give.  Underscores may follow the first digit, and there are at
most six digits. -/
def codePointTail? (value digits : Nat) : List Char → Option (Nat × Nat)
  | [] => none
  | c :: rest =>
      if c = '}' then
        if digits > 0 && Nat.isValidChar value then some (1, value) else none
      else if c = '_' then
        if digits > 0 then (codePointTail? value digits rest).map fun (n, v) => (n + 1, v)
        else none
      else if isHexDigit c && digits < 6 then
        (codePointTail? (16 * value + hexValue c) (digits + 1) rest).map fun (n, v) => (n + 1, v)
      else none

/-- The length of the blanks that a backslash at the end of a line joins.  A
carriage return counts only before a line feed, and the text has to go on. -/
def joinedBlanks? : List Char → Option Nat
  | [] => none
  | '\r' :: '\n' :: rest => (joinedBlanks? rest).map (· + 2)
  | '\r' :: _ => none
  | c :: rest =>
      if c = ' ' || c = '\t' || c = '\n' then (joinedBlanks? rest).map (· + 1) else some 0

/-- The two digits of an `\x` escape are admitted: seven bits for characters,
anything for bytes, anything but zero where NUL is excluded. -/
def Alphabet.admitsHex (alphabet : Alphabet) (high low : Char) : Bool :=
  match alphabet with
  | .text => isOctalDigit high && isHexDigit low
  | .bytes => isHexDigit high && isHexDigit low
  | .nulFree => isHexDigit high && isHexDigit low && !(high == '0' && low == '0')

/-- The characters that stand for themselves or a control character behind a backslash. -/
def Alphabet.admitsShort (alphabet : Alphabet) (c : Char) : Bool :=
  ['n', 'r', 't', '\\', '\'', '"'].contains c || (c == '0' && alphabet != .nulFree)

/-- The length of an escape behind its backslash, line joins aside. -/
def Alphabet.escapeLength? (alphabet : Alphabet) : List Char → Option Nat
  | 'x' :: high :: low :: _ => if alphabet.admitsHex high low then some 3 else none
  | 'u' :: '{' :: rest =>
      if alphabet = .bytes then none
      else
        (codePointTail? 0 0 rest).bind fun (length, value) =>
          if alphabet == Alphabet.nulFree && value == 0 then none else some (length + 2)
  | c :: _ => if alphabet.admitsShort c then some 1 else none
  | [] => none

/-- The character may stand for itself in a literal. -/
def Alphabet.admits (alphabet : Alphabet) (c : Char) : Bool :=
  match alphabet with
  | .text => true
  | .bytes => c.toNat < 128
  | .nulFree => c != '\x00'

/-! ## Quoted texts -/

/-- The length of a quoted text behind its opening quote, closing quote included. -/
def Alphabet.quotedTail? (alphabet : Alphabet) (text : List Char) : Option Nat :=
  match text with
  | [] => none
  | '"' :: _ => some 1
  | '\r' :: rest =>
      if rest.head? = some '\n' then (alphabet.quotedTail? (rest.drop 1)).map (· + 2) else none
  | '\\' :: rest =>
      let joins := rest.head? = some '\n' || rest.head? = some '\r'
      (if joins then joinedBlanks? rest else alphabet.escapeLength? rest).bind fun length =>
        (alphabet.quotedTail? (rest.drop length)).map (· + (length + 1))
  | c :: rest => if alphabet.admits c then (alphabet.quotedTail? rest).map (· + 1) else none
termination_by text.length
decreasing_by all_goals simp_wf; try omega

/-- The length of a raw text behind its opening quote, with as many number
signs behind the closing quote as stood before the opening one. -/
def Alphabet.rawTail? (alphabet : Alphabet) (hashes : Nat) : List Char → Option Nat
  | [] => none
  | c :: rest =>
      if c = '"' && (rest.takeWhile (· == '#')).length ≥ hashes then some (1 + hashes)
      else if c = '\r' && rest.head? != some '\n' then none
      else if alphabet.admits c then (alphabet.rawTail? hashes rest).map (· + 1)
      else none

/-- The length of a raw text behind its letters. -/
def Alphabet.rawLength? (alphabet : Alphabet) (text : List Char) : Option Nat :=
  let hashes := (text.takeWhile (· == '#')).length
  match text.drop hashes with
  | '"' :: body =>
      if hashes ≤ 255 then (alphabet.rawTail? hashes body).map (· + (hashes + 1)) else none
  | _ => none

/-- Adds the suffix behind a literal to its length. -/
def withSuffix (text : List Char) (length : Nat) : Nat :=
  length + suffixLength (text.drop length)

/-- The length of a text literal whose letters precede the quote: `plain` before
a quoted one, `raw` before a raw one. -/
def Alphabet.textLength? (alphabet : Alphabet) (plain raw : String) (text : List Char) :
    Option Nat :=
  if startsWith (plain ++ "\"") text then
    let letters := plain.length + 1
    (alphabet.quotedTail? (text.drop letters)).map fun length => withSuffix text (letters + length)
  else if startsWith raw text then
    (alphabet.rawLength? (text.drop raw.length)).map fun length =>
      withSuffix text (raw.length + length)
  else none

/-- The length of a character or byte literal whose letters precede the mark. -/
def Alphabet.characterLength? (alphabet : Alphabet) (letters : String) (text : List Char) :
    Option Nat :=
  if startsWith (letters ++ "'") text then
    let opening := letters.length + 1
    let body := text.drop opening
    let length? :=
      match body with
      | [] => none
      | '\\' :: rest => (alphabet.escapeLength? rest).map (· + 1)
      | c :: _ => if alphabet == Alphabet.bytes && c.toNat ≥ 128 then none else some 1
    length?.bind fun length =>
      if (body.drop length).head? = some '\'' then some (withSuffix text (opening + length + 1))
      else none
  else none

/-! ## Numbers -/

/-- The length of the digits of an exponent behind its letter, sign included. -/
def exponentTail (signed valued : Bool) : List Char → Option Nat
  | [] => if valued then some 0 else none
  | c :: rest =>
      if c = '+' || c = '-' then
        if valued then some 0
        else if signed then none
        else (exponentTail true valued rest).map (· + 1)
      else if c.isDigit then (exponentTail signed true rest).map (· + 1)
      else if c = '_' then (exponentTail signed valued rest).map (· + 1)
      else if valued then some 0
      else none

/-- The length of a number with a point or an exponent, suffix aside, behind its
first digit.  An exponent without digits ends the number before its letter if
there is a point. -/
def floatTail? (pointed : Bool) : List Char → Option Nat
  | [] => if pointed then some 0 else none
  | c :: rest =>
      if c.isDigit || c = '_' then (floatTail? pointed rest).map (· + 1)
      else if c = '.' then
        if pointed then some 0
        else if (rest.head?.map fun next => next == '.' || isStart next).getD false then none
        else (floatTail? true rest).map (· + 1)
      else if c = 'e' || c = 'E' then
        match exponentTail false false rest with
        | some length => some (length + 1)
        | none => if pointed then some 0 else none
      else if pointed then some 0
      else none

/-- The base of a whole number and the length of the letters that tell it. -/
def numberBase (text : List Char) : Nat × Nat :=
  if startsWith "0x" text then (16, 2)
  else if startsWith "0o" text then (8, 2)
  else if startsWith "0b" text then (2, 2)
  else (10, 0)

/-- The length of the digits of a whole number.  A decimal digit beyond the base
spoils it, a letter beyond the base ends it, and it needs a digit. -/
def wholeDigits? (base : Nat) (empty : Bool) : List Char → Option Nat
  | [] => if empty then none else some 0
  | c :: rest =>
      if c.isDigit then
        if hexValue c < base then (wholeDigits? base false rest).map (· + 1) else none
      else if isHexDigit c && hexValue c < base then
        (wholeDigits? base false rest).map (· + 1)
      else if c = '_' then
        if empty && base = 10 then none else (wholeDigits? base empty rest).map (· + 1)
      else if empty then none
      else some 0

/-- A number of the given length ends at its suffix: no character of an
identifier follows. -/
def numberLength? (text : List Char) (length : Nat) : Option Nat :=
  let total := withSuffix text length
  if ((text.drop total).head?.map isContinue).getD false then none else some total

/-- The length of a number with a point or an exponent. -/
def floatLength? (text : List Char) : Option Nat :=
  match text with
  | [] => none
  | c :: rest =>
      if c.isDigit then
        (floatTail? false rest).bind fun length => numberLength? text (length + 1)
      else none

/-- The length of a whole number. -/
def wholeLength? (text : List Char) : Option Nat :=
  let (base, letters) := numberBase text
  (wholeDigits? base true (text.drop letters)).bind fun length =>
    numberLength? text (letters + length)

/-! ## The meaning of quoted texts -/

/-- The length of an escape behind its backslash and the character that it stands for, line
joins aside. -/
def escapeValue? : List Char → Option (Nat × Char)
  | 'x' :: high :: low :: _ =>
      if Alphabet.text.admitsHex high low then
        some (3, Char.ofNat (16 * hexValue high + hexValue low))
      else none
  | 'u' :: '{' :: rest =>
      (codePointTail? 0 0 rest).map fun (length, value) => (length + 2, Char.ofNat value)
  | 'n' :: _ => some (1, '\n')
  | 'r' :: _ => some (1, '\r')
  | 't' :: _ => some (1, '\t')
  | '0' :: _ => some (1, '\x00')
  | c :: _ => if Alphabet.text.admitsShort c then some (1, c) else none
  | [] => none

/-- The characters that a quoted text stands for, from behind its opening quote. -/
def quotedValue? (text : List Char) : Option (List Char) :=
  match text with
  | [] => none
  | '"' :: _ => some []
  | '\r' :: rest =>
      if rest.head? = some '\n' then (quotedValue? (rest.drop 1)).map ('\n' :: ·) else none
  | '\\' :: rest =>
      if rest.head? = some '\n' || rest.head? = some '\r' then
        (joinedBlanks? rest).bind fun length => quotedValue? (rest.drop length)
      else
        (escapeValue? rest).bind fun (length, c) => (quotedValue? (rest.drop length)).map (c :: ·)
  | c :: rest => (quotedValue? rest).map (c :: ·)
termination_by text.length
decreasing_by all_goals simp_wf; try omega

/-- The text that a quoted literal stands for.  Raw ones are left out. -/
def textValue? : List Char → Option String
  | '"' :: rest => (quotedValue? rest).map String.ofList
  | _ => none

/-! ## The meaning of numbers -/

/-- The letter of an exponent is followed by its sign or first digit. -/
def exponentFollows (rest : List Char) : Bool :=
  match rest.dropWhile (· == '_') with
  | c :: _ => c == '+' || c == '-' || c.isDigit
  | [] => false

/-- The value and the suffix of a whole number behind the letters that tell its
base; a point or an exponent makes it something else. -/
def wholeTail? (base value : Nat) (empty : Bool) : List Char → Option (Nat × List Char)
  | [] => if empty then none else some (value, [])
  | c :: rest =>
      if c = '_' then wholeTail? base value empty rest
      else if c.isDigit || (isHexDigit c && base > 10) then
        if hexValue c < base then wholeTail? base (base * value + hexValue c) false rest else none
      else if base = 10 && c = '.' then none
      else if base = 10 && (c = 'e' || c = 'E') && exponentFollows rest then none
      else if empty then none
      else some (value, c :: rest)

/-- The value and the suffix of a whole number. -/
def wholeNumber? (text : List Char) : Option (Nat × List Char) :=
  let (base, letters) := numberBase text
  wholeTail? base 0 true (text.drop letters)

/-- The number may select a field of a tuple: it is whole, has no suffix, and
fits into 32 bits. -/
def isTupleIndex (text : List Char) : Bool :=
  match wholeNumber? text with
  | some (value, suffix) => suffix.isEmpty && value < 4294967296
  | none => false

/-- The parts of a text between its points. -/
def splitPoints : List Char → List (List Char)
  | [] => [[]]
  | '.' :: rest => [] :: splitPoints rest
  | c :: rest =>
      match splitPoints rest with
      | [] => [[c]]
      | part :: parts => (c :: part) :: parts

end EventDispatch.Source
