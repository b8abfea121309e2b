import EventDispatch.Text.Json

/-!
# The grammar of JSON

Which texts are JSON, and the value that each of them stands for.  A text is an element: a
value with blanks around it.  Arrays and objects are elements and members with commas in
between; a member is a string, a colon and an element.  A number without fraction and exponent
is whole, and any other one is left as it is written.

A string may write each of its characters in several ways: as it is, by a short escape, by its
code point in four hexadecimal digits, or by two such escapes for a pair of surrogates.  Escapes
of single surrogates stand for no character.
-/

namespace EventDispatch.Text.Json

/-! ## Blanks -/

/-- A character that may stand around values. -/
def isBlank (c : Char) : Bool :=
  c == ' ' || c == '\t' || c == '\n' || c == '\r'

/-- Nothing but blanks, if anything. -/
def Blanks (text : List Char) : Prop :=
  ∀ c ∈ text, isBlank c = true

/-! ## Numbers -/

/-- Decimal digits, at least one. -/
def Digits (text : List Char) : Prop :=
  text ≠ [] ∧ ∀ c ∈ text, c.isDigit = true

/-- Digits without a zero in front. -/
def Whole (text : List Char) : Prop :=
  Digits text ∧ (text.head? = some '0' → text = ['0'])

/-- A fraction, or nothing. -/
inductive Fraction : List Char → Prop where
  | absent : Fraction []
  | digits {text : List Char} (htext : Digits text) : Fraction ('.' :: text)

/-- An exponent, or nothing. -/
inductive Exponent : List Char → Prop where
  | absent : Exponent []
  | digits {mark : Char} {sign text : List Char} (hmark : mark = 'e' ∨ mark = 'E')
      (hsign : sign = [] ∨ sign = ['+'] ∨ sign = ['-']) (htext : Digits text) :
      Exponent (mark :: (sign ++ text))

/-- A number and the value that it stands for. -/
inductive Number : List Char → Value → Prop where
  | whole {text : List Char} (htext : Whole text) :
      Number text (.whole (Nat.ofDigitChars 10 text 0))
  | negative {text : List Char} (htext : Whole text) :
      Number ('-' :: text) (.whole (-(Nat.ofDigitChars 10 text 0)))
  | other {sign whole fraction exponent : List Char} (hsign : sign = [] ∨ sign = ['-'])
      (hwhole : Whole whole) (hfraction : Fraction fraction) (hexponent : Exponent exponent)
      (hsome : fraction ++ exponent ≠ []) :
      Number (sign ++ whole ++ fraction ++ exponent)
        (.number (String.ofList (sign ++ whole ++ fraction ++ exponent)))

/-! ## Strings -/

/-- The value of a hexadecimal digit. -/
def hexValue? (c : Char) : Option Nat :=
  if c.isDigit then some (c.toNat - '0'.toNat)
  else if 'a' ≤ c ∧ c ≤ 'f' then some (c.toNat - 'a'.toNat + 10)
  else if 'A' ≤ c ∧ c ≤ 'F' then some (c.toNat - 'A'.toNat + 10)
  else none

/-- Four hexadecimal digits and their value. -/
inductive CodeUnit : List Char → Nat → Prop where
  | digits {a b c d : Char} {i j k l : Nat} (ha : hexValue? a = some i) (hb : hexValue? b = some j)
      (hc : hexValue? c = some k) (hd : hexValue? d = some l) :
      CodeUnit [a, b, c, d] (16 * (16 * (16 * i + j) + k) + l)

/-- The character that a letter stands for behind a backslash. -/
def shortEscape? : Char → Option Char
  | '"' => some '"'
  | '\\' => some '\\'
  | '/' => some '/'
  | 'b' => some '\x08'
  | 'f' => some '\x0c'
  | 'n' => some '\n'
  | 'r' => some '\r'
  | 't' => some '\t'
  | _ => none

/-- The first one of a pair of surrogates. -/
def isHighSurrogate (point : Nat) : Bool :=
  0xD800 ≤ point && point < 0xDC00

/-- The second one of a pair of surrogates. -/
def isLowSurrogate (point : Nat) : Bool :=
  0xDC00 ≤ point && point < 0xE000

/-- The character that a pair of surrogates stands for. -/
def ofSurrogates (high low : Nat) : Char :=
  Char.ofNat (0x10000 + 0x400 * (high - 0xD800) + (low - 0xDC00))

/-- One character of a string, and a way to write it. -/
inductive Written : List Char → Char → Prop where
  | plain {c : Char} (hquote : c ≠ '"') (hescape : c ≠ '\\') (hcontrol : 32 ≤ c.toNat) :
      Written [c] c
  | short {letter c : Char} (hletter : shortEscape? letter = some c) : Written ['\\', letter] c
  | point {digits : List Char} {point : Nat} (hdigits : CodeUnit digits point)
      (hhigh : isHighSurrogate point = false) (hlow : isLowSurrogate point = false) :
      Written ('\\' :: 'u' :: digits) (Char.ofNat point)
  | pair {first second : List Char} {high low : Nat} (hfirst : CodeUnit first high)
      (hhigh : isHighSurrogate high = true) (hsecond : CodeUnit second low)
      (hlow : isLowSurrogate low = true) :
      Written ('\\' :: 'u' :: (first ++ '\\' :: 'u' :: second)) (ofSurrogates high low)

/-- The characters of a string, and a way to write them. -/
inductive Characters : List Char → List Char → Prop where
  | nil : Characters [] []
  | cons {piece text : List Char} {c : Char} {rest : List Char} (hpiece : Written piece c)
      (hrest : Characters text rest) : Characters (piece ++ text) (c :: rest)

/-! ## Values -/

/-- What a part of a text may be. -/
inductive Phrase where
  /-- A value without blanks around it. -/
  | value (value : Value)
  /-- A value with blanks around it. -/
  | element (value : Value)
  | elements (values : List Value)
  | member (key : String) (value : Value)
  | members (entries : List (String × Value))

/-- The text is a way to write the phrase. -/
inductive Spells : List Char → Phrase → Prop where
  | null : Spells ['n', 'u', 'l', 'l'] (.value .null)
  | yes : Spells ['t', 'r', 'u', 'e'] (.value (.truth true))
  | no : Spells ['f', 'a', 'l', 's', 'e'] (.value (.truth false))
  | number {text : List Char} {value : Value} (hnumber : Number text value) :
      Spells text (.value value)
  | string {body : List Char} {value : String} (hbody : Characters body value.toList) :
      Spells ('"' :: (body ++ ['"'])) (.value (.string value))
  | emptyArray {blanks : List Char} (hblanks : Blanks blanks) :
      Spells ('[' :: (blanks ++ [']'])) (.value (.list []))
  | array {text : List Char} {values : List Value} (helements : Spells text (.elements values)) :
      Spells ('[' :: (text ++ [']'])) (.value (.list values))
  | emptyObject {blanks : List Char} (hblanks : Blanks blanks) :
      Spells ('\x7b' :: (blanks ++ ['\x7d'])) (.value (.object []))
  | object {text : List Char} {entries : List (String × Value)}
      (hmembers : Spells text (.members entries)) :
      Spells ('\x7b' :: (text ++ ['\x7d'])) (.value (.object entries))
  | element {front text back : List Char} {value : Value} (hfront : Blanks front)
      (hvalue : Spells text (.value value)) (hback : Blanks back) :
      Spells (front ++ text ++ back) (.element value)
  | lastElement {text : List Char} {value : Value} (helement : Spells text (.element value)) :
      Spells text (.elements [value])
  | nextElement {text more : List Char} {value : Value} {values : List Value}
      (helement : Spells text (.element value)) (hmore : Spells more (.elements values)) :
      Spells (text ++ ',' :: more) (.elements (value :: values))
  | member {front body middle text : List Char} {key : String} {value : Value}
      (hfront : Blanks front) (hbody : Characters body key.toList) (hmiddle : Blanks middle)
      (helement : Spells text (.element value)) :
      Spells (front ++ '"' :: (body ++ '"' :: (middle ++ ':' :: text))) (.member key value)
  | lastMember {text : List Char} {key : String} {value : Value}
      (hmember : Spells text (.member key value)) : Spells text (.members [(key, value)])
  | nextMember {text more : List Char} {key : String} {value : Value}
      {entries : List (String × Value)} (hmember : Spells text (.member key value))
      (hmore : Spells more (.members entries)) :
      Spells (text ++ ',' :: more) (.members ((key, value) :: entries))

/-- The text is JSON and stands for the value. -/
def Denotes (text : String) (value : Value) : Prop :=
  Spells text.toList (.element value)

end EventDispatch.Text.Json
