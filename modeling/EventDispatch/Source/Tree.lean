import EventDispatch.Source.Lexeme

/-!
# Token trees

The lexemes of a source, blanks dropped, grouped by their delimiters.  Each
tree knows the line it starts on, and a group the line it ends on.  A
documentation comment becomes the attribute it stands for.

`Tree.build` fails at the first lexeme that cannot stand where it does: a stray
one, or a closing delimiter that closes nothing or the wrong group.  A source
that ends inside a group fails at the delimiter that opened the innermost one.
-/

namespace EventDispatch.Source

/-- An identifier, raw or not: a text that is one lexeme of that kind. -/
structure Ident where
  text : String
  isLexeme : lexemeAt text.toList = (.ident, text.toList.length)
  deriving DecidableEq

/-- The identifier that a text is. -/
def Ident.ofChars? (text : List Char) : Option Ident :=
  if whole : lexemeAt text = (.ident, text.length) then
    some { text := String.ofList text, isLexeme := by rw [String.toList_ofList, whole] }
  else none

/-- A token without inner structure. -/
inductive Leaf where
  | ident (name : Ident)
  | lifetime (name : String)
  | punct (mark : Char) (joint : Bool)
  | literal (kind : LiteralKind) (text : String)
  deriving DecidableEq

/-- A token, or a group of trees between delimiters. -/
inductive Tree where
  | leaf (leaf : Leaf) (line : Nat)
  | group (delimiter : Delimiter) (opening closing : Nat) (inner : List Tree)

namespace Tree

/-- The line on which the tree starts. -/
def line : Tree → Nat
  | leaf _ line => line
  | group _ opening _ _ => opening

/-- The name of the attribute that a documentation comment stands for. -/
def docIdent : Ident where
  text := "doc"
  isLexeme := by decide +kernel

/-- The attribute that a documentation comment stands for. -/
def ofDoc (inner : Bool) (line : Nat) : List Tree :=
  let mark (c : Char) := leaf (.punct c false) line
  let content := [leaf (.ident docIdent) line, mark '=', leaf (.literal .text "") line]
  (if inner then [mark '#', mark '!'] else [mark '#']) ++ [group .bracket line line content]

/-- A group that has been opened and not yet closed, with the trees before it,
the latest first. -/
structure Frame where
  delimiter : Delimiter
  opening : Nat
  before : List Tree

/-- The leaf of a lexeme. -/
def leafOf? (lexeme : Lexeme) : Option Leaf :=
  match lexeme.kind with
  | .ident => (Ident.ofChars? lexeme.text).map Leaf.ident
  | .lifetime => some (.lifetime (String.ofList lexeme.text))
  | .literal kind => some (.literal kind (String.ofList lexeme.text))
  | .punct joint => lexeme.text.head?.map (Leaf.punct · joint)
  | _ => none

/-- The trees of the lexemes that begin on a line, behind the frames still open
and the trees already read, both with the latest first.  A failure names its line. -/
def build (line : Nat) (frames : List Frame) (read : List Tree) :
    List Lexeme → Except Nat (List Tree)
  | [] =>
      match frames with
      | [] => .ok read.reverse
      | frame :: _ => .error frame.opening
  | lexeme :: rest =>
      let next := line + lexeme.text.count '\n'
      match lexeme.kind with
      | .blank => build next frames read rest
      | .doc inner => build next frames ((ofDoc inner line).reverse ++ read) rest
      | .opening delimiter => build next (⟨delimiter, line, read⟩ :: frames) [] rest
      | .closing delimiter =>
          match frames with
          | [] => .error line
          | frame :: outer =>
              if frame.delimiter = delimiter then
                build next outer
                  (group delimiter frame.opening line read.reverse :: frame.before) rest
              else .error line
      | _ =>
          match leafOf? lexeme with
          | some token => build next frames (leaf token line :: read) rest
          | none => .error line

/-- The trees of a text whose first line has the given number. -/
def ofText (text : List Char) (line : Nat) : Except Nat (List Tree) :=
  build line [] [] (lexemes text)

mutual

/-- The number of trees, inner ones included. -/
def size : Tree → Nat
  | leaf _ _ => 1
  | group _ _ _ inner => 1 + sizeAll inner

/-- The number of trees of a list, inner ones included. -/
def sizeAll : List Tree → Nat
  | [] => 0
  | tree :: rest => size tree + sizeAll rest

end

end Tree

end EventDispatch.Source
