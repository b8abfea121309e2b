import EventDispatch.Source.Tree

/-!
# Reading token trees

A parser reads trees from a cursor.  It either returns a value and the cursor
behind what it read, or fails at a line: that of the first tree it cannot
accept, or that of the closing delimiter when the group ends too early.

Trees that a group holds beyond what its parser asked for are not a failure on
the spot: the cursor remembers the line of the first of them, and the parse of
the file fails there once everything else has been accepted.
-/

namespace EventDispatch.Source

/-- A place in a group: the trees ahead, the line on which the group closes,
and the line of the first superfluous tree met so far. -/
structure Cursor where
  ahead : List Tree
  close : Nat
  superfluous : Option Nat := none

/-- A parser of trees; a failure is the line it is reported on. -/
abbrev Parser := StateT Cursor (Except Nat)

/-- A test of the trees ahead. -/
abbrev Peek := List Tree → Bool

/-- The line of the next tree, or of the end of the group. -/
def Cursor.line (cursor : Cursor) : Nat :=
  match cursor.ahead with
  | tree :: _ => tree.line
  | [] => cursor.close

namespace Peek

/-- No tree is ahead. -/
def atEnd : Peek := List.isEmpty

/-- The punctuation marks stand ahead without gaps between them. -/
def marks : List Char → Peek
  | [], _ => true
  | [mark], .leaf (.punct c _) _ :: _ => c == mark
  | mark :: more, .leaf (.punct c joint) _ :: rest => c == mark && joint && marks more rest
  | _ :: _, _ => false

/-- The operator stands ahead; a longer one that starts with it counts too. -/
def op (operator : String) : Peek :=
  marks operator.toList

/-- The name stands ahead as it is written. -/
def word (name : String) : Peek
  | .leaf (.ident found) _ :: _ => found.text == name
  | _ => false

/-- Some name stands ahead, reserved or not. -/
def anyWord : Peek
  | .leaf (.ident _) _ :: _ => true
  | _ => false

/-- The names that the language keeps for itself. -/
def reserved : List String := [
  "_", "abstract", "as", "async", "await", "become", "box", "break", "const", "continue", "crate",
  "do", "dyn", "else", "enum", "extern", "false", "final", "fn", "for", "if", "impl", "in", "let",
  "loop", "macro", "match", "mod", "move", "mut", "override", "priv", "pub", "ref", "return",
  "Self", "self", "static", "struct", "super", "trait", "true", "try", "type", "typeof", "unsafe",
  "unsized", "use", "virtual", "where", "while", "yield"]

/-- A name that a declaration may use stands ahead. -/
def name : Peek
  | .leaf (.ident found) _ :: _ => !reserved.contains found.text
  | _ => false

/-- A lifetime stands ahead. -/
def lifetime : Peek
  | .leaf (.lifetime _) _ :: _ => true
  | _ => false

/-- A group stands ahead. -/
def group (delimiter : Delimiter) : Peek
  | .group found _ _ _ :: _ => found == delimiter
  | _ => false

/-- A literal stands ahead: a quoted text, a number, a truth value, or a
negative number. -/
def literal : Peek
  | .leaf (.literal _ _) _ :: _ => true
  | .leaf (.ident found) _ :: _ => found.text == "true" || found.text == "false"
  | .leaf (.punct '-' _) _ :: .leaf (.literal .number _) _ :: _ => true
  | _ => false

/-- A quoted text stands ahead. -/
def text : Peek
  | .leaf (.literal .text _) _ :: _ => true
  | _ => false

/-- A number without point and exponent that selects a field of a tuple stands ahead. -/
def tupleIndex : Peek
  | .leaf (.literal .number text) _ :: _ => isTupleIndex text.toList
  | _ => false

/-- A number with a point or an exponent stands ahead. -/
def pointed : Peek
  | .leaf (.literal .number text) _ :: _ => (wholeNumber? text.toList).isNone
  | _ => false

/-- The test holds behind the next tree. -/
def second (test : Peek) : Peek := fun trees => !trees.isEmpty && test (trees.drop 1)

/-- The test holds behind the next two trees. -/
def third (test : Peek) : Peek := fun trees => trees.length ≥ 2 && test (trees.drop 2)

/-- One of the words stands ahead. -/
def anyOf (names : List String) : Peek := fun trees => names.any fun name => word name trees

/-- One of the words that may start a path stands ahead, or its double colon. -/
def pathStart : Peek := fun trees =>
  name trees || anyOf ["self", "super", "crate"] trees || op "::" trees

end Peek

namespace Parser

/-- Fails at the next tree. -/
def reject {α : Type} : Parser α := fun cursor => .error cursor.line

/-- Fails at a line. -/
def rejectAt {α : Type} (line : Nat) : Parser α := fun _ => .error line

/-- The result of a test of the trees ahead. -/
def peek (test : Peek) : Parser Bool := fun cursor => .ok (test cursor.ahead, cursor)

/-- The line of the next tree. -/
def line : Parser Nat := fun cursor => .ok (cursor.line, cursor)

/-- Passes a number of trees. -/
def skip (count : Nat) : Parser Unit :=
  fun cursor => .ok ((), { cursor with ahead := cursor.ahead.drop count })

/-- Fails unless the test holds. -/
def require (test : Peek) : Parser Unit := do
  unless ← peek test do reject

/-- Reads an operator. -/
def op (operator : String) : Parser Unit := do
  require (Peek.op operator)
  skip operator.length

/-- Reads a name as it is written. -/
def word (name : String) : Parser Unit := do
  require (Peek.word name)
  skip 1

/-- Reads an operator if it stands ahead. -/
def opIf (operator : String) : Parser Bool := do
  if ← peek (Peek.op operator) then
    skip operator.length
    return true
  else return false

/-- Reads a word if it stands ahead. -/
def wordIf (name : String) : Parser Bool := do
  if ← peek (Peek.word name) then
    skip 1
    return true
  else return false

/-- Reads any name, reserved or not. -/
def anyWord : Parser String := fun cursor =>
  match cursor.ahead with
  | .leaf (.ident name) _ :: rest => .ok (name.text, { cursor with ahead := rest })
  | _ => .error cursor.line

/-- Reads a name that a declaration may use. -/
def name : Parser String := do
  require Peek.name
  anyWord

/-- Reads one of the given words, or a name that a declaration may use. -/
def nameOr (words : List String) : Parser String := do
  if ← peek (Peek.anyOf words) then anyWord else name

/-- Reads a lifetime. -/
def lifetime : Parser Unit := do
  require Peek.lifetime
  skip 1

/-- Reads a lifetime if one stands ahead. -/
def lifetimeIf : Parser Bool := do
  if ← peek Peek.lifetime then
    skip 1
    return true
  else return false

/-- Reads a literal. -/
def literal : Parser Unit := do
  require Peek.literal
  skip (if ← peek (Peek.op "-") then 2 else 1)

/-- Reads a quoted text. -/
def text : Parser Unit := do
  require Peek.text
  skip 1

/-- Reads a group of any kind without looking into it. -/
def anyGroup : Parser Delimiter := fun cursor =>
  match cursor.ahead with
  | .group delimiter _ _ _ :: rest => .ok (delimiter, { cursor with ahead := rest })
  | _ => .error cursor.line

/-- Reads a group by a parser of its content.  What the parser leaves over is
superfluous. -/
def inGroup {α : Type} (delimiter : Delimiter) (content : Parser α) : Parser α := fun cursor =>
  match cursor.ahead with
  | .group found _ closing inner :: rest =>
      if found = delimiter then
        match content ⟨inner, closing, cursor.superfluous⟩ with
        | .error line => .error line
        | .ok (value, left) =>
            let superfluous := left.superfluous.or (left.ahead.head?.map Tree.line)
            .ok (value, { cursor with ahead := rest, superfluous })
      else .error cursor.line
  | _ => .error cursor.line

/-- Reads by a parser if it accepts what is ahead, and otherwise nothing. -/
def attempt {α : Type} (parser : Parser α) : Parser (Option α) := fun cursor =>
  match parser cursor with
  | .ok (value, next) => .ok (some value, next)
  | .error _ => .ok (none, cursor)

/-! ## Repetition -/

/-- At most `bound` elements while the test holds. -/
def whileAtMost {α : Type} (test : Peek) (element : Parser α) : Nat → Parser (List α)
  | 0 => reject
  | bound + 1 => do
      if ← peek test then
        let value ← element
        let rest ← whileAtMost test element bound
        return value :: rest
      else return []

/-- The number of elements that the trees ahead can make up, and one more. -/
def bound : Parser Nat := fun cursor => .ok (cursor.ahead.length + 1, cursor)

/-- Elements while the test holds. -/
def whilePeek {α : Type} (test : Peek) (element : Parser α) : Parser (List α) := do
  whileAtMost test element (← bound)

/-- Elements up to the end of the group. -/
def toEnd {α : Type} (element : Parser α) : Parser (List α) :=
  whilePeek (fun trees => !Peek.atEnd trees) element

/-- At most `bound` elements with separators between them until the stop; a
separator before the stop is allowed. -/
def separatedAtMost {α : Type} (stop : Peek) (separator : Parser Unit) (element : Parser α) :
    Nat → Parser (List α)
  | 0 => reject
  | bound + 1 => do
      if ← peek stop then return []
      let value ← element
      if ← peek stop then return [value]
      separator
      let rest ← separatedAtMost stop separator element bound
      return value :: rest

/-- Elements with separators between them until the stop. -/
def separated {α : Type} (stop : Peek) (separator : Parser Unit) (element : Parser α) :
    Parser (List α) := do
  separatedAtMost stop separator element (← bound)

/-- Elements with commas between them up to the end of the group. -/
def commaList {α : Type} (element : Parser α) : Parser (List α) :=
  separated Peek.atEnd (op ",") element

/-- At most `bound` elements as long as the operator follows; one before the
stop is allowed. -/
def joinedAtMost {α : Type} (stop : Peek) (operator : String) (element : Parser α) :
    Nat → Parser (List α)
  | 0 => reject
  | bound + 1 => do
      if ← peek stop then return []
      let value ← element
      if ← opIf operator then
        let rest ← joinedAtMost stop operator element bound
        return value :: rest
      else return [value]

/-- Elements as long as the operator follows, and none at the stop. -/
def joined {α : Type} (stop : Peek) (operator : String) (element : Parser α) :
    Parser (List α) := do
  joinedAtMost stop operator element (← bound)

end Parser

end EventDispatch.Source
