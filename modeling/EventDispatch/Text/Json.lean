import EventDispatch.Text.Escape

/-!
# JSON text

Values and their two written forms: `compact`, without any blank, and `pretty`,
with one entry a line.  Strings escape the quote, the backslash and the control
characters below the blank, and nothing else.
-/

namespace EventDispatch.Text.Json

/-- A JSON value.  The entries of an object keep their order; a number that is not
whole is given as it is written. -/
inductive Value where
  | null
  | truth (value : Bool)
  | whole (value : Int)
  | number (written : String)
  | string (value : String)
  | list (items : List Value)
  | object (entries : List (String × Value))

/-! ## Strings -/

/-- A hexadecimal digit in lower case. -/
def hexDigit (value : Nat) : Char :=
  if value < 10 then Char.ofNat ('0'.toNat + value) else Char.ofNat ('a'.toNat + (value - 10))

/-- One character of a string. -/
def escapeChar (c : Char) : List Char :=
  if c = '"' then ['\\', '"']
  else if c = '\\' then ['\\', '\\']
  else if c = '\n' then ['\\', 'n']
  else if c = '\r' then ['\\', 'r']
  else if c = '\t' then ['\\', 't']
  else if c = '\x08' then ['\\', 'b']
  else if c = '\x0c' then ['\\', 'f']
  else if c.toNat < 32 then
    ['\\', 'u', '0', '0', hexDigit (c.toNat / 16), hexDigit (c.toNat % 16)]
  else [c]

/-- The characters of a string. -/
def quoteChars (text : List Char) : List Char :=
  '"' :: text.flatMap escapeChar ++ ['"']

/-! ## Values -/

/-- The characters of a truth value. -/
def truthChars (value : Bool) : List Char :=
  if value then ['t', 'r', 'u', 'e'] else ['f', 'a', 'l', 's', 'e']

/-- Pieces with a comma in between. -/
def separate : List (List Char) → List Char
  | [] => []
  | [piece] => piece
  | piece :: pieces => piece ++ ',' :: separate pieces

mutual

/-- The characters of a value without blanks. -/
def compactChars : Value → List Char
  | .null => ['n', 'u', 'l', 'l']
  | .truth value => truthChars value
  | .whole value => (toString value).toList
  | .number written => written.toList
  | .string value => quoteChars value.toList
  | .list items => '[' :: separate (compactItems items) ++ [']']
  | .object entries => '{' :: separate (compactEntries entries) ++ ['}']

/-- The characters of each item of a list. -/
def compactItems : List Value → List (List Char)
  | [] => []
  | item :: rest => compactChars item :: compactItems rest

/-- The characters of each entry of an object. -/
def compactEntries : List (String × Value) → List (List Char)
  | [] => []
  | (key, value) :: rest =>
      (quoteChars key.toList ++ ':' :: compactChars value) :: compactEntries rest

end

/-- A value without blanks. -/
def compact (value : Value) : String :=
  String.ofList (compactChars value)

/-- A new line with an indent of two blanks a level. -/
def newLine (level : Nat) : List Char :=
  '\n' :: List.replicate (2 * level) ' '

/-- Pieces between brackets, one a line; nothing between the brackets if there are none. -/
def bracket (opening closing : Char) (level : Nat) (pieces : List (List Char)) : List Char :=
  if pieces.isEmpty then [opening, closing]
  else
    opening :: separate (pieces.map fun piece => newLine (level + 1) ++ piece) ++
      newLine level ++ [closing]

mutual

/-- The characters of a value with one entry a line. -/
def prettyChars (level : Nat) : Value → List Char
  | .list items => bracket '[' ']' level (prettyItems (level + 1) items)
  | .object entries => bracket '{' '}' level (prettyEntries (level + 1) entries)
  | .null => compactChars .null
  | .truth value => compactChars (.truth value)
  | .whole value => compactChars (.whole value)
  | .number written => compactChars (.number written)
  | .string value => compactChars (.string value)

/-- The characters of each item of a list. -/
def prettyItems (level : Nat) : List Value → List (List Char)
  | [] => []
  | item :: rest => prettyChars level item :: prettyItems level rest

/-- The characters of each entry of an object. -/
def prettyEntries (level : Nat) : List (String × Value) → List (List Char)
  | [] => []
  | (key, value) :: rest =>
      (quoteChars key.toList ++ ':' :: ' ' :: prettyChars level value) ::
        prettyEntries level rest

end

/-- A value with one entry a line. -/
def pretty (value : Value) : String :=
  String.ofList (prettyChars 0 value)

/-- A string, or null. -/
def ofText? : Option String → Value
  | some text => .string text
  | none => .null

end EventDispatch.Text.Json
