import EventDispatch.Source.Grammar.Items

/-!
# Source files

The recursive rules of the grammar are tied together level by level:
`Rules.level n` can follow `n` nested uses of them.  Between two uses that read
a tree there are only a few that read none, so the number of trees bounds the
levels that a file can ask for.
-/

namespace EventDispatch.Source

namespace Rules

/-- Rules that accept nothing. -/
def none : Rules where
  expr _ := Parser.reject
  unary _ := Parser.reject
  operators _ _ _ := Parser.reject
  statementExpr := Parser.reject
  type _ := Parser.reject
  bound _ _ := Parser.reject
  pattern := Parser.reject
  statements := Parser.reject
  item := Parser.reject
  fields := Parser.reject
  imports _ := Parser.reject

/-- The rules of the grammar over rules for what is nested in them. -/
def nest (rules : Rules) : Rules where
  expr := Parser.exprRule rules
  unary := Parser.unaryRule rules
  operators := Parser.operatorsRule rules
  statementExpr := Parser.statementExprRule rules
  type := Parser.typeRule rules
  bound := Parser.boundRule rules
  pattern := Parser.patternRule rules
  statements := Parser.statementsRule rules
  item := Parser.itemRule rules
  fields := do
    let _ ← Parser.namedFields rules
  imports := Parser.importsRule rules

/-- The rules with a number of levels of nesting. -/
def level : Nat → Rules
  | 0 => none
  | n + 1 => nest (level n)

end Rules

namespace Item

/-- The number of levels that reading some trees can take. -/
def levels (trees : List Tree) : Nat :=
  8 * (Tree.sizeAll trees + 2)

/-- The items of a file, given by its trees. -/
def ofTrees (trees : List Tree) : Except Nat (List Item) :=
  match Parser.items (Rules.level (levels trees)) { ahead := trees, close := 1 } with
  | .error line => .error line
  | .ok (items, left) =>
      match left.superfluous with
      | some line => .error line
      | none => .ok items

/-- A text without a byte order mark. -/
def dropMark : List Char → List Char
  | '\ufeff' :: rest => rest
  | text => text

/-- A text without the blanks and comments at its front. -/
def dropBlanks (text : List Char) : List Char :=
  match text, blankLength? text with
  | _ :: rest, some length => dropBlanks (rest.drop (length - 1))
  | text, _ => text
termination_by text.length
decreasing_by simp only [List.length_drop, List.length_cons]; omega

/-- A text without the line that names an interpreter.  A first line that opens
an attribute is none. -/
def dropInterpreter (text : List Char) : List Char :=
  if startsWith "#!" text && (dropBlanks (text.drop 2)).head? != some '[' then
    text.dropWhile (· != '\n')
  else text

/-- The items of a source text.  A failure is the line it is reported on. -/
def ofSource (text : String) : Except Nat (List Item) := do
  let text := dropInterpreter (dropMark text.toList)
  ofTrees (← Tree.ofText (dropMark text) 1)

end Item

end EventDispatch.Source
