import EventDispatch.Source.Grammar.Expressions

/-!
# Statements
-/

namespace EventDispatch.Source

namespace Peek

/-- A constant item rather than a constant expression or closure stands ahead. -/
def constItem : Peek := fun trees =>
  word "const" trees &&
    !(second (group .brace) trees || second (word "static") trees ||
      (second (word "async") trees && !third (anyOf ["unsafe", "extern", "fn"]) trees) ||
      second (word "move") trees || second (op "|") trees)

/-- A static item rather than a closure stands ahead. -/
def staticItem : Peek := fun trees =>
  word "static" trees &&
    (second (word "mut") trees ||
      (second name trees &&
        !(second (word "async") trees &&
          (third (word "move") trees || third (op "|") trees))))

/-- A word that opens an item stands ahead. -/
def itemStart : Peek := fun trees =>
  anyOf ["pub", "extern", "use", "fn", "mod", "type", "struct", "enum", "trait", "impl", "macro"]
      trees ||
    (word "crate" trees && !second (op "::") trees) || staticItem trees || constItem trees ||
    (word "unsafe" trees && !second (group .brace) trees) ||
    (word "async" trees && second (anyOf ["unsafe", "extern", "fn"]) trees) ||
    (word "union" trees && second name trees) ||
    (word "auto" trees && second (word "trait") trees) ||
    (word "default" trees && second (anyOf ["unsafe", "impl"]) trees)

end Peek

namespace Parser

/-- What a path at the start of a statement turns out to call. -/
inductive StatementCall where
  | item
  | braced
  | none

/-- The macro call at the start of a statement, seen but not read: one that
defines a name is an item, and one in braces that nothing is selected from is a
statement. -/
def statementCall : Parser StatementCall := do
  let _ ← plainPath
  if ← peek (Peek.op "!") then
    if ← peek fun trees => Peek.second Peek.name trees || Peek.second (Peek.word "try") trees then
      return .item
    else if ← peek fun trees =>
        Peek.second (Peek.group .brace) trees && !Peek.third Peek.trailer trees then
      return .braced
    else return .none
  else return .none

/-- The call that a statement starts with. -/
def callAhead : Parser StatementCall := fun cursor =>
  match statementCall cursor with
  | .ok (call, _) => .ok (call, cursor)
  | .error _ => .ok (.none, cursor)

/-- A macro call as a statement. -/
def callStatement : Parser Unit := do
  let _ ← plainPath
  op "!"
  let _ ← anyGroup
  let _ ← opIf ";"

/-- A binding, with what happens when its pattern does not match. -/
def letStatement (rules : Rules) : Parser Unit := do
  word "let"
  let _ ← rules.pattern
  if ← opIf ":" then
    let _ ← rules.type true
  if ← opIf "=" then
    let value ← rules.expr true
    if !value.endsInBrace && (← peek (Peek.word "else")) then
      word "else"
      block rules
  op ";"

/-- A statement; answers whether another may follow at once. -/
def statement (rules : Rules) : Parser Bool := do
  let start ← get
  let _ ← outerAttributes rules
  let call ← callAhead
  match call with
  | .braced =>
      callStatement
      return true
  | _ =>
      if ← peek (Peek.word "let") then
        letStatement rules
        return true
      else if (call matches .item) || (← peek Peek.itemStart) then
        set start
        let _ ← rules.item
        return true
      else
        let shape ← rules.statementExpr
        if ← opIf ";" then return true
        return shape.form == .block || shape.form == .bracedCall

/-- At most a number of statements. -/
def statementsAtMost (rules : Rules) : Nat → Parser Unit
  | 0 => reject
  | bound + 1 => do
      let _ ← whilePeek (Peek.op ";") (op ";")
      if ← peek Peek.atEnd then return ()
      let done ← statement rules
      if ← peek Peek.atEnd then return ()
      unless done do reject
      statementsAtMost rules bound

/-- The statements of a block. -/
def statementsRule (rules : Rules) : Parser Unit := do
  statementsAtMost rules (← bound)

end Parser

end EventDispatch.Source
