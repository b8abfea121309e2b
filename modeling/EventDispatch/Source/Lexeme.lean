import EventDispatch.Source.Literal

/-!
# Lexemes of source texts

Source text is cut into lexemes that follow each other without gaps: blanks
and comments, documentation comments, delimiters, and the leaves of the
grammar.  Where no lexeme begins, the rest of the text is one `stray` lexeme,
so that the texts of all lexemes always concatenate to the source.
-/

namespace EventDispatch.Source

open Text.Identifier

/-- The three kinds of paired delimiters. -/
inductive Delimiter where
  | paren
  | bracket
  | brace
  deriving DecidableEq

/-- What a literal denotes. -/
inductive LiteralKind where
  | text
  | byteText
  | plainText
  | byte
  | character
  | number
  | placeholder
  deriving DecidableEq

/-- What a lexeme is. -/
inductive LexemeKind where
  | blank
  | doc (inner : Bool)
  | opening (delimiter : Delimiter)
  | closing (delimiter : Delimiter)
  | ident
  | lifetime
  | punct (joint : Bool)
  | literal (kind : LiteralKind)
  | stray
  deriving DecidableEq

/-- A piece of the source. -/
structure Lexeme where
  kind : LexemeKind
  text : List Char
  deriving DecidableEq

/-! ## Blanks and comments -/

/-- Blanks are the characters with the property White_Space, and the two
invisible marks that set the direction of writing. -/
def isBlank (c : Char) : Bool :=
  c == ' ' || ('\t' ≤ c && c ≤ '\r') || c == '\u0085' || c == '\u00a0' || c == '\u1680' ||
    ('\u2000' ≤ c && c ≤ '\u200a') || c == '\u2028' || c == '\u2029' || c == '\u202f' ||
    c == '\u205f' || c == '\u3000' || c == '\u200e' || c == '\u200f'

/-- The length of a line up to its end, which is not part of it. -/
def lineLength : List Char → Nat
  | [] => 0
  | '\n' :: _ => 0
  | '\r' :: '\n' :: _ => 1
  | _ :: rest => lineLength rest + 1

/-- The length of a block comment behind `depth` openings, all closings included. -/
def blockTail? (depth : Nat) : List Char → Option Nat
  | '/' :: '*' :: rest => (blockTail? (depth + 1) rest).map (· + 2)
  | '*' :: '/' :: rest =>
      if depth ≤ 1 then some 2 else (blockTail? (depth - 1) rest).map (· + 2)
  | _ :: rest => (blockTail? depth rest).map (· + 1)
  | [] => none

/-- The length of the block comment at the front of a text. -/
def blockLength? (text : List Char) : Option Nat :=
  if startsWith "/*" text then blockTail? 0 text else none

/-- The length of a comment that documents nothing. -/
def commentLength? (text : List Char) : Option Nat :=
  if startsWith "//" text then
    if startsWith "//!" text || (startsWith "///" text && !startsWith "////" text) then none
    else some (lineLength text)
  else if startsWith "/**/" text then some 4
  else if startsWith "/*!" text || (startsWith "/**" text && !startsWith "/***" text) then none
  else blockLength? text

/-- The length of the text of a line of documentation: a carriage return before
the line feed belongs to the line end. -/
def docLineLength : List Char → Nat
  | [] => 0
  | '\n' :: _ => 0
  | '\r' :: '\n' :: _ => 0
  | _ :: rest => docLineLength rest + 1

/-- A carriage return stands somewhere without a line feed behind it. -/
def hasBareReturn : List Char → Bool
  | [] => false
  | '\r' :: rest => rest.head? != some '\n' || hasBareReturn rest
  | _ :: rest => hasBareReturn rest

/-- The length of a documentation comment, its side (inner or outer), and the
length of its text behind the marks. -/
def docLength? (text : List Char) : Option (Nat × Bool) :=
  let line (inner : Bool) :=
    let body := text.drop 3
    if hasBareReturn (body.take (docLineLength body)) then none
    else some (3 + lineLength body, inner)
  let block (inner : Bool) :=
    (blockLength? text).bind fun length =>
      if hasBareReturn ((text.take (length - 2)).drop 3) then none else some (length, inner)
  if startsWith "//!" text then line true
  else if startsWith "/*!" text then block true
  else if startsWith "///" text then if startsWith "////" text then none else line false
  else if startsWith "/**" text then if startsWith "/***" text then none else block false
  else none

/-! ## Leaves -/

/-- The names that have no raw form. -/
def notRaw : List String := ["_", "super", "self", "Self", "crate"]

/-- The length of an identifier, raw or not. -/
def identOrRawLength? (text : List Char) : Option Nat :=
  if startsWith "r#" text then
    let name := text.drop 2
    (identLength? name).bind fun length =>
      if notRaw.contains (String.ofList (name.take length)) then none else some (length + 2)
  else identLength? text

/-- A text starts with the letters and mark of a literal that is not an identifier. -/
def startsLiteral (text : List Char) : Bool :=
  ["r\"", "r#\"", "r##", "b\"", "b'", "br\"", "br#", "c\"", "cr\"", "cr#"].any
    fun pattern => startsWith pattern text

/-- A placeholder that stands where an expression could not be expanded. -/
def placeholderText : String := "(/*ERROR*/)"

/-- The literal at the front of a text: its kind and length. -/
def literalLength? (text : List Char) : Option (LiteralKind × Nat) :=
  ((Alphabet.text.textLength? "" "r" text).map (LiteralKind.text, ·)).or
    (((Alphabet.bytes.textLength? "b" "br" text).map (LiteralKind.byteText, ·)).or
      (((Alphabet.nulFree.textLength? "c" "cr" text).map (LiteralKind.plainText, ·)).or
        (((Alphabet.bytes.characterLength? "b" text).map (LiteralKind.byte, ·)).or
          (((Alphabet.text.characterLength? "" text).map (LiteralKind.character, ·)).or
            (((floatLength? text).map (LiteralKind.number, ·)).or
              ((wholeLength? text).map (LiteralKind.number, ·)))))))

/-- The character is a punctuation mark. -/
def isMark (c : Char) : Bool :=
  "~!@#$%^&*-=+|;:,<.>/?'".toList.contains c

/-- A text starts with a punctuation mark that does not open a comment. -/
def startsMark (text : List Char) : Bool :=
  !startsWith "//" text && !startsWith "/*" text && (text.head?.map isMark).getD false

/-- The punctuation at the front of a text.  An apostrophe needs a name behind
it, and the two are one lifetime unless the name opens a literal. -/
def punctLexeme? (text : List Char) : Option (LexemeKind × Nat) :=
  if startsMark text then
    let rest := text.drop 1
    if text.head? = some '\'' then
      (identOrRawLength? rest).bind fun length =>
        let next := (rest.drop length).head?
        if next = some '\'' || (next = some '#' && !startsWith "r#" rest) then none
        else if (literalLength? rest).isSome || startsLiteral rest then some (.punct true, 1)
        else some (.lifetime, length + 1)
    else some (.punct (startsMark rest), 1)
  else none

/-- The leaf at the front of a text. -/
def leafLexeme? (text : List Char) : Option (LexemeKind × Nat) :=
  match literalLength? text with
  | some (kind, length) => some (.literal kind, length)
  | none =>
      (punctLexeme? text).or
        (if startsLiteral text then none
          else (identOrRawLength? text).map (LexemeKind.ident, ·))

/-- The opening delimiter of a character. -/
def openingOf? : Char → Option Delimiter
  | '(' => some .paren
  | '[' => some .bracket
  | '{' => some .brace
  | _ => none

/-- The closing delimiter of a character. -/
def closingOf? : Char → Option Delimiter
  | ')' => some .paren
  | ']' => some .bracket
  | '}' => some .brace
  | _ => none

/-! ## The lexemes of a text -/

/-- The length of the blanks at the front of a text, comments included one at a time. -/
def blankLength? (text : List Char) : Option Nat :=
  match text.takeWhile isBlank with
  | [] => commentLength? text
  | blanks => some blanks.length

/-- The kind and length of the lexeme at the front of a text. -/
def lexemeAt (text : List Char) : LexemeKind × Nat :=
  match blankLength? text with
  | some length => (.blank, length)
  | none =>
      match docLength? text with
      | some (length, inner) => (.doc inner, length)
      | none =>
          if startsWith placeholderText text then (.literal .placeholder, placeholderText.length)
          else
            match text.head?.bind openingOf?, text.head?.bind closingOf? with
            | some delimiter, _ => (.opening delimiter, 1)
            | _, some delimiter => (.closing delimiter, 1)
            | none, none => (leafLexeme? text).getD (.stray, text.length)

/-- The lexemes of a text, in order. -/
def lexemes (text : List Char) : List Lexeme :=
  match text with
  | [] => []
  | c :: rest =>
      let (kind, length) := lexemeAt (c :: rest)
      { kind, text := (c :: rest).take (length - 1 + 1) } :: lexemes (rest.drop (length - 1))
termination_by text.length
decreasing_by simp only [List.length_drop, List.length_cons]; omega

end EventDispatch.Source
