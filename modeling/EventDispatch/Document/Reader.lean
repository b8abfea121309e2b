import EventDispatch.Document
import EventDispatch.Number.Reading

/-!
# Reading documents

A reader takes characters from the front of a text and keeps count of the bytes
passed.  It fails without saying why: a text that is not a document is only
ever refused as a whole.
-/

namespace EventDispatch.Document

/-- A place in a text: the characters ahead and the bytes passed. -/
structure Place where
  ahead : List Char
  offset : Nat

/-- A reader from a place. -/
abbrev Reader := StateT Place Option

namespace Reader

/-! ## Characters -/

/-- The next character, if there is one. -/
def peek : Reader (Option Char) := fun place => some (place.ahead.head?, place)

/-- The bytes passed. -/
def offset : Reader Nat := fun place => some (place.offset, place)

/-- Reads a character of a class. -/
def one (test : Char → Bool) : Reader Char := fun place =>
  match place.ahead with
  | [] => none
  | c :: rest =>
      if test c then some (c, { ahead := rest, offset := place.offset + c.utf8Size }) else none

/-- Reads the given characters. -/
def exactly : List Char → Reader Unit
  | [] => return ()
  | c :: rest => do
      let _ ← one (· == c)
      exactly rest

/-- Reads the given text. -/
def token (text : String) : Reader Unit := exactly text.toList

/-- The text stands ahead. -/
def sees (text : String) : Reader Bool := fun place =>
  some (text.toList.isPrefixOf place.ahead, place)

/-- Reads the given text if it stands ahead. -/
def tokenIf (text : String) : Reader Bool := do
  if ← sees text then
    token text
    return true
  else return false

/-- At most a number of elements as long as the reader succeeds. -/
def repeatAtMost {α : Type} (element : Reader α) : Nat → Reader (List α)
  | 0 => return []
  | bound + 1 => fun place =>
      match element place with
      | none => some ([], place)
      | some (value, next) =>
          (repeatAtMost element bound next).map fun (values, last) => (value :: values, last)

/-- The number of characters ahead. -/
def room : Reader Nat := fun place => some (place.ahead.length, place)

/-- Elements as long as the reader succeeds. -/
def many {α : Type} (element : Reader α) : Reader (List α) := do
  repeatAtMost element (← room)

/-- The longest run of characters of a class. -/
def run (test : Char → Bool) : Reader (List Char) := many (one test)

/-- Reads by a reader if it succeeds, and otherwise nothing. -/
def optional {α : Type} (reader : Reader α) : Reader (Option α) := fun place =>
  match reader place with
  | none => some (none, place)
  | some (value, next) => some (some value, next)

/-! ## Blanks, comments and line ends -/

/-- Blanks within a line. -/
def blanks : Reader Unit := do
  let _ ← run fun c => c == ' ' || c == '\t'

/-- The end of a line. -/
def newline : Reader Unit := do
  if ← tokenIf "\n" then return ()
  token "\r\n"

/-- A character outside quotes and line ends that may stand for itself: a tab or
anything but a control character. -/
def isPlain (c : Char) : Bool :=
  c == '\t' || (' ' ≤ c && c != '\x7f')

/-- A comment up to the end of its line. -/
def comment : Reader Unit := do
  token "#"
  let _ ← run isPlain

/-- The end of a line or of the text. -/
def lineEnd : Reader Unit := do
  if (← peek).isSome then newline

/-- What may follow a header or an entry on its line. -/
def lineRest : Reader Unit := do
  blanks
  if ← sees "#" then comment
  lineEnd

/-- A comment or a line end between the values of a list. -/
def gapPiece : Reader Unit := do
  if ← sees "#" then comment
  newline

/-- Blanks, comments and line ends. -/
def gap : Reader Unit := do
  blanks
  let _ ← many do
    gapPiece
    blanks

/-! ## Texts -/

/-- The value of hexadecimal digits. -/
def hexNumber (digits : List Char) : Nat :=
  digits.foldl (fun value c =>
    16 * value +
      (if c.isDigit then c.toNat - '0'.toNat
        else if 'a' ≤ c then c.toNat - 'a'.toNat + 10
        else c.toNat - 'A'.toNat + 10)) 0

/-- A hexadecimal digit. -/
def isHex (c : Char) : Bool :=
  c.isDigit || ('a' ≤ c && c ≤ 'f') || ('A' ≤ c && c ≤ 'F')

/-- A number of elements in a row. -/
def times {α : Type} (element : Reader α) : Nat → Reader (List α)
  | 0 => return []
  | n + 1 => do
      let first ← element
      let rest ← times element n
      return first :: rest

/-- The character that a number of hexadecimal digits stand for. -/
def codePoint (digits : Nat) : Reader Char := do
  let value := hexNumber (← times (one isHex) digits)
  if Nat.isValidChar value then return Char.ofNat value else failure

/-- A character behind a backslash. -/
def escape : Reader Char := do
  token "\\"
  match ← one fun _ => true with
  | 'b' => return '\x08'
  | 't' => return '\t'
  | 'n' => return '\n'
  | 'f' => return '\x0c'
  | 'r' => return '\r'
  | '"' => return '"'
  | '\\' => return '\\'
  | 'u' => codePoint 4
  | 'U' => codePoint 8
  | _ => failure

/-- A character of a quoted text on one line. -/
def quotedChar : Reader Char := do
  if ← sees "\\" then escape
  else one fun c => isPlain c && c != '"' && c != '\\'

/-- A quoted text on one line. -/
def quoted : Reader (List Char) := do
  token "\""
  let content ← many quotedChar
  token "\""
  return content

/-- A text between apostrophes on one line. -/
def verbatim : Reader (List Char) := do
  token "'"
  let content ← run fun c => isPlain c && c != '\''
  token "'"
  return content

/-- A backslash at the end of a line with all blanks and line ends behind it. -/
def joinedLines : Reader (List Char) := do
  token "\\"
  blanks
  newline
  let _ ← many do
    let _ ← (one fun c => c == ' ' || c == '\t') <|> (do newline; return ' ')
  return []

/-- One or two of the marks that close a longer text, when they do not close it. -/
def innerMarks (mark : Char) : Reader (List Char) := do
  let triple := String.ofList [mark, mark, mark]
  if ← sees triple then failure
  let c ← one (· == mark)
  return [c]

/-- The marks that close a longer text: three, behind up to two that belong to it. -/
def closingMarks (mark : Char) : Reader (List Char) := do
  exactly [mark, mark, mark]
  let extra ← optional (one (· == mark))
  let more ← if extra.isSome then optional (one (· == mark)) else pure none
  return extra.toList ++ more.toList

/-- A line end within a text. -/
def innerNewline : Reader (List Char) := do
  newline
  return ['\n']

/-- A quoted text over several lines.  A line end right behind the opening marks
does not belong to it. -/
def quotedLines : Reader (List Char) := do
  token "\"\"\""
  let _ ← optional newline
  let pieces ← many
    (joinedLines <|> (do return [← escape]) <|> innerNewline <|> innerMarks '"' <|>
      (do return [← one fun c => isPlain c && c != '"' && c != '\\']))
  let ending ← closingMarks '"'
  return pieces.flatten ++ ending

/-- A text between apostrophes over several lines. -/
def verbatimLines : Reader (List Char) := do
  token "'''"
  let _ ← optional newline
  let pieces ← many
    (innerNewline <|> innerMarks '\'' <|> (do return [← one fun c => isPlain c && c != '\'']))
  let ending ← closingMarks '\''
  return pieces.flatten ++ ending

/-- A text. -/
def text : Reader (List Char) := do
  if ← sees "\"\"\"" then quotedLines
  else if ← sees "\"" then quoted
  else if ← sees "'''" then verbatimLines
  else verbatim

/-! ## Numbers and dates -/

/-- The digits of a number, with underscores between them left out. -/
def digits (test : Char → Bool) : Reader (List Char) := do
  let first ← one test
  let more ← many do
    let _ ← tokenIf "_"
    one test
  return first :: more

/-- A sign, if there is one. -/
def sign : Reader (List Char) := do
  return (← optional (one fun c => c == '+' || c == '-')).toList

/-- The sign and digits of a decimal number; only a lone zero starts with zero. -/
def decimal : Reader (List Char) := do
  let signs ← sign
  if ← sees "0" then
    token "0"
    return signs ++ ['0']
  else return signs ++ (← digits Char.isDigit)

/-- The value of digits in a base. -/
def number (base : Nat) (digits : List Char) : Nat :=
  digits.foldl (fun value c => base * value + hexNumber [c]) 0

/-- A whole number that fits into 64 bits. -/
def fitting (value : Int) : Reader Int :=
  if -9223372036854775808 ≤ value && value ≤ 9223372036854775807 then return value else failure

/-- A whole number. -/
def whole : Reader Int := do
  if ← tokenIf "0x" then fitting (number 16 (← digits isHex))
  else if ← tokenIf "0o" then fitting (number 8 (← digits fun c => '0' ≤ c && c ≤ '7'))
  else if ← tokenIf "0b" then fitting (number 2 (← digits fun c => c == '0' || c == '1'))
  else
    match ← decimal with
    | '-' :: rest => fitting (-(number 10 rest : Int))
    | '+' :: rest => fitting (number 10 rest)
    | rest => fitting (number 10 rest)

/-- An exponent. -/
def exponent : Reader (List Char) := do
  let _ ← one fun c => c == 'e' || c == 'E'
  let signs ← sign
  let power ← digits Char.isDigit
  return 'e' :: (signs ++ power)

/-- The digits behind a point. -/
def fractionDigits : Reader (List Char) := do
  token "."
  return '.' :: (← digits Char.isDigit)

/-- A number with a point or an exponent, or one of the words for what is not
finite.  A number too large to be finite is refused unless it is negative. -/
def floating : Reader Number.Floating := do
  let special : Reader (List Char) := do
    let signs ← sign
    if ← tokenIf "inf" then return signs ++ "inf".toList
    token "nan"
    return signs ++ "nan".toList
  let written : Reader (List Char) := do
    let start ← decimal
    if ← sees "." then
      let behind ← fractionDigits
      let power := (← optional exponent).getD []
      return start ++ behind ++ power
    else return start ++ (← exponent)
  let text ← written <|> special
  match Number.readFloating? .double text with
  | none => failure
  | some (.infinite false) =>
      if text.any Char.isDigit then failure else return .infinite false
  | some value => return value

/-- A number of decimal digits in a row, within bounds. -/
def field (width least most : Nat) : Reader Nat := do
  let value := number 10 (← times (one Char.isDigit) width)
  if least ≤ value && value ≤ most then return value else failure

/-- The number of days of a month. -/
def daysOf (year month : Nat) : Nat :=
  if month = 2 then
    if year % 4 = 0 && (year % 100 != 0 || year % 400 = 0) then 29 else 28
  else if [4, 6, 9, 11].contains month then 30
  else 31

/-- A date. -/
def date : Reader Unit := do
  let year ← field 4 0 9999
  token "-"
  let month ← field 2 1 12
  token "-"
  let _ ← field 2 1 (daysOf year month)

/-- A time of day. -/
def time : Reader Unit := do
  let _ ← field 2 0 23
  token ":"
  let _ ← field 2 0 59
  token ":"
  let _ ← field 2 0 60
  if ← tokenIf "." then
    let _ ← one Char.isDigit
    let _ ← run Char.isDigit

/-- The distance of a time from the common one. -/
def timeOffset : Reader Unit := do
  if (← optional (one fun c => c == 'Z' || c == 'z')).isSome then return ()
  let _ ← one fun c => c == '+' || c == '-'
  let _ ← field 2 0 23
  token ":"
  let _ ← field 2 0 59

/-- A date, a time, or both. -/
def moment : Reader Unit :=
  (do
    date
    let _ ← optional do
      let _ ← one fun c => c == 'T' || c == 't' || c == ' '
      time
      optional timeOffset) <|> time

/-! ## Keys -/

/-- One part of a key. -/
def simpleKey : Reader Key := do
  let start ← offset
  let name ←
    if ← sees "\"" then quoted
    else if ← sees "'" then verbatim
    else
      let first ← one isBare
      let rest ← run isBare
      pure (first :: rest)
  return { name := String.ofList name, span := { start, stop := ← offset } }
where
  isBare (c : Char) : Bool := c.isAlphanum || c == '-' || c == '_'

/-- The most parts that a key or nested values have. -/
def depthLimit : Nat := 80

/-- A key: its parts but the last, and the last one. -/
def key : Reader (List Key × Key) := do
  blanks
  let first ← simpleKey
  blanks
  let more ← many do
    token "."
    blanks
    let part ← simpleKey
    blanks
    return part
  let parts := first :: more
  if parts.length ≥ depthLimit then failure
  match parts.reverse with
  | [] => failure
  | last :: before => return (before.reverse, last)

/-! ## Values -/

/-- The elements of a list behind its opening bracket. -/
def listItems (value : Reader Node) : Nat → Reader (List Node)
  | 0 => failure
  | bound + 1 => do
      gap
      if ← tokenIf "]" then return []
      let item ← value
      gap
      if ← tokenIf "," then
        let rest ← listItems value bound
        return item :: rest
      else
        token "]"
        return [item]

/-- An entry of a table in braces. -/
def inlineEntry (value : Reader Node) : Reader (List Key × Key × Node) := do
  let (path, last) ← key
  token "="
  blanks
  let node ← value
  blanks
  return (path, last, node)

/-- The further entries of a table in braces. -/
def inlineRest (value : Reader Node) : Reader (List (List Key × Key × Node)) :=
  many do
    token ","
    inlineEntry value

/-- A table in braces behind the opening one. -/
def inlineTable (value : Reader Node) : Reader Table := do
  blanks
  let table := TableOf.empty .inline none
  if ← tokenIf "\x7d" then return table
  let first ← inlineEntry value
  let rest ← inlineRest value
  token "\x7d"
  let filled := (first :: rest).foldlM
    (fun (table : Table) (path, last, node) => table.define .inlineDotted path last node) table
  StateT.lift filled

/-- A value, given the reader of values nested in it, if they may nest further. -/
def valueRule (nested : Option (Reader Node)) : Reader Node := do
  let start ← offset
  let spanned : Reader Span := do return { start, stop := ← offset }
  match ← peek with
  | some '"' | some '\'' =>
      let content ← text
      return .scalar (.text (String.ofList content)) (← spanned)
  | some '[' =>
      token "["
      let value ← StateT.lift nested
      let items ← listItems value ((← room) + 1)
      return .list items (← spanned)
  | some '{' =>
      token "\x7b"
      let value ← StateT.lift nested
      let table ← inlineTable value
      return .table { table with span := some (← spanned) }
  | some 't' =>
      token "true"
      return .scalar (.truth true) (← spanned)
  | some 'f' =>
      token "false"
      return .scalar (.truth false) (← spanned)
  | some c =>
      if c == 'i' || c == 'n' || c == '+' || c == '-' || c.isDigit then
        let value ←
          (do moment; return Scalar.moment) <|>
            (do return Scalar.floating (← floating)) <|>
            (do return Scalar.whole (← whole))
        return .scalar value (← spanned)
      else failure
  | none => failure

/-- A value with a number of levels of nesting. -/
def value : Nat → Reader Node
  | 0 => failure
  | 1 => valueRule none
  | level + 1 => valueRule (some (value level))

end Reader

/-! ## Putting lines together -/

/-- An entry of a table: the path of a dotted key, its last part and the value. -/
structure Entry where
  path : List Key
  key : Key
  node : Node

/-- What a header announces: a table of its own or one more table of an array. -/
inductive HeaderKind where
  | table
  | element
  deriving DecidableEq

/-- A header: the path to the table that holds the announced one, and its key. -/
structure Header where
  kind : HeaderKind
  path : List Key
  key : Key
  span : Span

/-- A line of a document. -/
inductive Line where
  | empty
  | entry (entry : Entry)
  | header (header : Header)

/-- A header with the entries below it. -/
structure Section where
  header : Header
  entries : List Entry

/-- The entries before the first header, and the sections. -/
def split : List Line → List Entry × List Section
  | [] => ([], [])
  | .empty :: lines => split lines
  | .entry entry :: lines =>
      let (entries, sections) := split lines
      (entry :: entries, sections)
  | .header header :: lines =>
      let (entries, sections) := split lines
      ([], { header, entries } :: sections)

namespace TableOf

/-- The table with a further entry.  What it holds so far reaches up to the end of
the value if it has a place in the text. -/
def addEntry (table : Table) (entry : Entry) : Option Table :=
  let span := match table.span, entry.node.span? with
    | some own, some value => some { own with stop := value.stop }
    | own, _ => own
  { table with span }.define .dotted entry.path entry.key entry.node

/-- The place of several tables in a row. -/
def spanOf (tables : List Table) : Option Span := do
  let first ← (← tables.head?).span
  let last ← (← tables.getLast?).span
  return { start := first.start, stop := last.stop }

/-- The table that holds what a section announces, with the section.  A table that
only lay on the way to others keeps its entries and moves to the end; no other is
announced twice. -/
def place (part : Section) (parent : Table) : Option Table :=
  let header := part.header
  let fill (table : Table) : Option Table :=
    part.entries.foldlM addEntry { table with form := .headed, span := some header.span }
  match header.kind, parent.get? header.key.name with
  | .table, none =>
      (fill (empty .headed none)).map fun table => parent.insert header.key (.table table)
  | .table, some (.table earlier) =>
      if earlier.form = .implied then
        (fill earlier).map fun table =>
          (parent.remove header.key.name).insert header.key (.table table)
      else none
  | .element, none =>
      (fill (empty .headed none)).map fun table =>
        parent.insert header.key (.tables [table] (spanOf [table]))
  | .element, some (.tables earlier _) =>
      (fill (empty .headed none)).map fun table =>
        let tables := earlier ++ [table]
        parent.replace header.key.name (.tables tables (spanOf tables))
  | _, _ => none

/-- The document with one more section. -/
def addSection (document : Table) (part : Section) : Option Table :=
  document.change .implied (place part) part.header.path

/-- The document of lines. -/
def ofLines (lines : List Line) : Option Table := do
  let (entries, sections) := split lines
  let top ← entries.foldlM addEntry (empty .headed none)
  sections.foldlM addSection top

end TableOf

/-! ## Lines -/

namespace Reader

/-- A header line from its first bracket on. -/
def header : Reader Header := do
  let start ← offset
  let double ← tokenIf "[["
  unless double do token "["
  let (path, last) ← key
  token (if double then "]]" else "]")
  let span := { start, stop := ← offset }
  lineRest
  return { kind := if double then .element else .table, path, key := last, span }

/-- A line with an entry. -/
def entry : Reader Entry := do
  let (path, last) ← key
  token "="
  blanks
  let node ← value depthLimit
  lineRest
  return { path, key := last, node }

/-- A line of a document. -/
def line : Reader Line := do
  match ← peek with
  | none => failure
  | some '#' =>
      comment
      lineEnd
      return .empty
  | some '[' => return .header (← header)
  | some c =>
      if c == '\n' || c == '\r' then
        newline
        return .empty
      else return .entry (← entry)

/-- The lines of a document, behind a byte order mark if there is one. -/
def lines : Reader (List Line) := do
  let _ ← tokenIf "\ufeff"
  blanks
  let found ← many do
    let found ← line
    blanks
    return found
  if (← peek).isSome then failure
  return found

end Reader

/-- The document that a text writes, if it writes one. -/
def ofText (text : String) : Option Table := do
  let (lines, _) ← Reader.lines { ahead := text.toList, offset := 0 }
  TableOf.ofLines lines

end EventDispatch.Document
