import EventDispatch.Source.Grammar.Patterns
import EventDispatch.Source.Grammar.Types

/-!
# Expressions

An expression is a chain of operands and binary operators.  An operand is an
atom with what is called, indexed or selected behind it, and with prefix
operators in front.
-/

namespace EventDispatch.Source

namespace Peek

/-- A tree that an expression may start with stands ahead. -/
def exprStart : Peek := fun trees =>
  (anyWord trees && !word "as" trees) || group .paren trees || group .bracket trees ||
    group .brace trees || literal trees || callMark trees ||
    (op "-" trees && !op "-=" trees && !op "->" trees) ||
    (op "*" trees && !op "*=" trees) || (op "|" trees && !op "|=" trees) ||
    (op "&" trees && !op "&=" trees) || op ".." trees ||
    (op "<" trees && !op "<=" trees && !op "<<=" trees) || op "::" trees || lifetime trees ||
    op "#" trees

/-- What ends a range without an upper end stands ahead. -/
def rangeEnd (structs : Bool) : Peek := fun trees =>
  atEnd trees || op "," trees || op ";" trees || (op "." trees && !op ".." trees) ||
    (!structs && group .brace trees) || word "as" trees ||
    ["?", "=>", "=", "+", "/", "%", "^", ">", "<=", "!=", "-=", "*=", "&=", "|=", "<<="].any
      fun operator => op operator trees

/-- A selection or a question mark stands ahead. -/
def trailer : Peek := fun trees => (op "." trees && !op ".." trees) || op "?" trees

/-- A closure introduced by lifetimes or modifiers stands ahead. -/
def closure : Peek := fun trees =>
  op "|" trees || anyOf ["move", "static", "async"] trees ||
    (word "for" trees && generics (trees.drop 1)) ||
    (word "const" trees && !second (group .brace) trees)

/-- A path or macro call or struct literal stands ahead. -/
def exprPath : Peek := fun trees =>
  name trees || op "::" trees || op "<" trees || anyOf ["self", "Self", "super", "crate"] trees ||
    (word "try" trees && (second (op "!") trees || second (op "::") trees))

end Peek

/-- A binary operator and its strength. -/
abbrev BinaryOperator := String × Precedence

/-- The binary operators; one that another starts with stands behind it. -/
def binaryOperators : List BinaryOperator := [
  ("+=", .assign), ("-=", .assign), ("*=", .assign), ("/=", .assign), ("%=", .assign),
  ("^=", .assign), ("&=", .assign), ("|=", .assign), ("<<=", .assign), (">>=", .assign),
  ("&&", .and), ("||", .or), ("<<", .shift), (">>", .shift),
  ("==", .compare), ("<=", .compare), ("!=", .compare), (">=", .compare),
  ("+", .sum), ("-", .sum), ("*", .product), ("/", .product), ("%", .product),
  ("^", .bitXor), ("&", .bitAnd), ("|", .bitOr), ("<", .compare), (">", .compare)]

/-- The binary operator ahead. -/
def binaryOperator? (trees : List Tree) : Option BinaryOperator :=
  binaryOperators.find? fun (operator, _) => Peek.op operator trees

/-- The strength of whatever operator stands ahead, and the least one if there is none. -/
def strengthAhead (trees : List Tree) : Precedence :=
  match binaryOperator? trees with
  | some (_, precedence) => precedence
  | none =>
      if Peek.op "=" trees && !Peek.op "=>" trees then .assign
      else if Peek.op ".." trees then .range
      else if Peek.word "as" trees then .cast
      else .jump

namespace Parser

/-- An expression of which nothing is asked later. -/
def otherExpr (endsInBrace : Bool := false) : ExprShape :=
  { form := .other, endsInBrace }

/-- An expression like a block. -/
def blockExpr : ExprShape :=
  { form := .block, endsInBrace := true }

/-! ## Blocks, conditions and loops -/

/-- At most a number of branches of a condition. -/
def branchesAtMost (rules : Rules) : Nat → Parser Unit
  | 0 => reject
  | bound + 1 => do
      word "if"
      let _ ← rules.expr false
      block rules
      if ← wordIf "else" then
        if ← peek (Peek.word "if") then branchesAtMost rules bound else block rules

/-- A condition with its branches. -/
def conditional (rules : Rules) : Parser ExprShape := do
  branchesAtMost rules (← bound)
  return blockExpr

/-- A loop over the elements of something. -/
def forLoop (rules : Rules) : Parser ExprShape := do
  word "for"
  let _ ← patterns rules
  word "in"
  let _ ← rules.expr false
  body rules
  return blockExpr

/-- A loop while a condition holds. -/
def whileLoop (rules : Rules) : Parser ExprShape := do
  word "while"
  let _ ← rules.expr false
  body rules
  return blockExpr

/-- A loop without a condition. -/
def endlessLoop (rules : Rules) : Parser ExprShape := do
  word "loop"
  body rules
  return blockExpr

/-- An arm of a match. -/
def arm (rules : Rules) : Parser Unit := do
  let _ ← outerAttributes rules
  let _ ← patterns rules
  if ← wordIf "if" then
    let _ ← rules.expr true
  op "=>"
  let result ← rules.statementExpr
  if result.form != .block && !(← peek Peek.atEnd) then op ","
  else
    let _ ← opIf ","

/-- A match with its arms. -/
def matchExpr (rules : Rules) : Parser ExprShape := do
  word "match"
  let _ ← rules.expr false
  inGroup .brace do
    let _ ← innerAttributes rules
    let _ ← toEnd (arm rules)
  return blockExpr

/-- A word in front of a body. -/
def wordBody (rules : Rules) (keyword : String) : Parser ExprShape := do
  word keyword
  body rules
  return blockExpr

/-- A block that stops at the first failure inside. -/
def tryBlock (rules : Rules) : Parser ExprShape := do
  word "try"
  block rules
  return blockExpr

/-- A block that runs later. -/
def asyncBlock (rules : Rules) : Parser ExprShape := do
  word "async"
  let _ ← wordIf "move"
  block rules
  return otherExpr true

/-- A loop or block behind a label. -/
def labeled (rules : Rules) : Parser ExprShape := do
  lifetime
  op ":"
  if ← peek (Peek.word "while") then whileLoop rules
  else if ← peek (Peek.word "for") then forLoop rules
  else if ← peek (Peek.word "loop") then endlessLoop rules
  else if ← peek (Peek.group .brace) then
    body rules
    return blockExpr
  else reject

/-! ## Atoms -/

/-- A parameter of a closure. -/
def closureParameter (rules : Rules) : Parser Unit := do
  let _ ← outerAttributes rules
  let _ ← rules.pattern
  if ← opIf ":" then
    let _ ← rules.type true

/-- A closure. -/
def closureExpr (rules : Rules) (structs : Bool) : Parser ExprShape := do
  let _ ← boundLifetimes rules
  let _ ← wordIf "const"
  let _ ← wordIf "static"
  let _ ← wordIf "async"
  let _ ← wordIf "move"
  op "|"
  let _ ← separated (Peek.op "|") (op ",") (closureParameter rules)
  op "|"
  if ← opIf "->" then
    let _ ← rules.type true
    block rules
    return otherExpr true
  else
    let result ← rules.expr structs
    return otherExpr result.endsInBrace

/-- A field of a struct literal. -/
def fieldValue (rules : Rules) : Parser Unit := do
  let _ ← outerAttributes rules
  let named ← member
  if !named || (← peek (Peek.op ":")) then
    op ":"
    let _ ← rules.expr true

/-- At most a number of fields of a struct literal; the struct that the others
come from ends them. -/
def fieldValuesAtMost (rules : Rules) : Nat → Parser Unit
  | 0 => reject
  | bound + 1 => do
      if ← peek Peek.atEnd then return ()
      if ← opIf ".." then
        unless ← peek Peek.atEnd do
          let _ ← rules.expr true
      else
        fieldValue rules
        if ← peek Peek.atEnd then return ()
        op ","
        fieldValuesAtMost rules bound

/-- A path, a macro call, or a struct literal. -/
def pathExpr (rules : Rules) (structs : Bool) : Parser ExprShape := do
  let (qualified, shape) ← qualifiedPath rules true
  if !qualified && shape.plain && (← peek Peek.callMark) then
    op "!"
    let delimiter ← anyGroup
    if delimiter = .brace then return { form := .bracedCall, endsInBrace := true }
    else return otherExpr
  if structs && (← peek (Peek.group .brace)) then
    inGroup .brace do
      fieldValuesAtMost rules (← bound)
    return otherExpr true
  else return otherExpr

/-- A parenthesised expression or a tuple. -/
def parenExpr (rules : Rules) : Parser ExprShape := do
  let _ ← inGroup .paren (commaList (rules.expr true))
  return otherExpr

/-- The content of an array: elements, or one element and a length. -/
def arrayExprContent (rules : Rules) : Parser Unit := do
  if ← peek Peek.atEnd then return ()
  let _ ← rules.expr true
  if ← opIf ";" then
    let _ ← rules.expr true
  else unless ← peek Peek.atEnd do
    op ","
    let _ ← commaList (rules.expr true)

/-- The end of a range behind its dots. -/
def rangeUpper (structs included : Bool) (right : Parser ExprShape) : Parser ExprShape := do
  if !included && (← peek (Peek.rangeEnd structs)) then
    return { form := .range }
  else
    let upper ← right
    return { form := .range, endsInBrace := upper.endsInBrace }

/-- The dots of a range, and whether the upper end is included. -/
def rangeDots : Parser Bool := do
  if ← opIf "..=" then return true
  if ← peek (Peek.op "...") then reject
  op ".."
  return false

/-- At most a number of operators that bind the right operand of another more
strongly than that one does. -/
def rightOperandAtMost (rules : Rules) (structs : Bool) (precedence : Precedence) :
    Nat → ExprShape → Parser ExprShape
  | 0, _ => reject
  | bound + 1, shape => fun cursor =>
      let next := strengthAhead cursor.ahead
      let binds := next.rank > precedence.rank || (next == .assign && precedence == .assign)
      if binds then
        match rules.operators shape structs next cursor with
        | .error line => .error line
        | .ok (shape, after) =>
            if after.ahead.length = cursor.ahead.length then .ok (shape, after)
            else rightOperandAtMost rules structs precedence bound shape after
      else .ok (shape, cursor)

/-- The right operand of an operator. -/
def rightOperand (rules : Rules) (structs : Bool) (precedence : Precedence) :
    Parser ExprShape := do
  let shape ← rules.unary structs
  rightOperandAtMost rules structs precedence (← bound) shape

/-- The value that a jump takes along, if one follows. -/
def jumpValue (rules : Rules) (follows : Peek) : Parser ExprShape := do
  if ← peek follows then
    let value ← rules.expr true
    return otherExpr value.endsInBrace
  else return otherExpr

/-- A jump out of a loop or block. -/
def breakExpr (rules : Rules) (structs : Bool) : Parser ExprShape := do
  word "break"
  let start ← line
  if ← peek fun trees => Peek.lifetime trees && Peek.second (Peek.op ":") trees then
    let _ ← rules.expr true
    rejectAt start
  let _ ← lifetimeIf
  jumpValue rules fun trees => Peek.exprStart trees && (structs || !Peek.group .brace trees)

/-- A condition that matches a pattern. -/
def letExpr (rules : Rules) (structs : Bool) : Parser ExprShape := do
  word "let"
  let _ ← patterns rules
  op "="
  let left ← rules.unary structs
  let value ← rules.operators left structs .compare
  return otherExpr value.endsInBrace

/-- A call of something that the compiler itself provides. -/
def builtinExpr : Parser ExprShape := do
  word "builtin"
  op "#"
  let _ ← name
  require (Peek.group .paren)
  skip 1
  return otherExpr

/-- The atom at the front of an operand. -/
def atom (rules : Rules) (structs : Bool) : Parser ExprShape := do
  if ← peek Peek.literal then
    literal
    return otherExpr
  else if ← peek fun trees => Peek.word "async" trees &&
      (Peek.second (Peek.group .brace) trees ||
        (Peek.second (Peek.word "move") trees && Peek.third (Peek.group .brace) trees)) then
    asyncBlock rules
  else if ← peek fun trees => Peek.word "try" trees && Peek.second (Peek.group .brace) trees then
    tryBlock rules
  else if ← peek Peek.closure then closureExpr rules structs
  else if ← peek fun trees => Peek.word "builtin" trees && Peek.second (Peek.op "#") trees then
    builtinExpr
  else if ← peek Peek.exprPath then pathExpr rules structs
  else if ← peek (Peek.group .paren) then parenExpr rules
  else if ← peek (Peek.word "break") then breakExpr rules structs
  else if ← wordIf "continue" then
    let _ ← lifetimeIf
    return otherExpr
  else if ← wordIf "return" then jumpValue rules Peek.exprStart
  else if ← wordIf "become" then
    let value ← rules.expr true
    return otherExpr value.endsInBrace
  else if ← peek (Peek.group .bracket) then
    inGroup .bracket (arrayExprContent rules)
    return otherExpr
  else if ← peek (Peek.word "let") then letExpr rules structs
  else if ← peek (Peek.word "if") then conditional rules
  else if ← peek (Peek.word "while") then whileLoop rules
  else if ← peek (Peek.word "for") then forLoop rules
  else if ← peek (Peek.word "loop") then endlessLoop rules
  else if ← peek (Peek.word "match") then matchExpr rules
  else if ← wordIf "yield" then jumpValue rules Peek.exprStart
  else if ← peek (Peek.word "unsafe") then wordBody rules "unsafe"
  else if ← peek (Peek.word "const") then wordBody rules "const"
  else if ← peek (Peek.group .brace) then
    body rules
    return blockExpr
  else if ← peek (Peek.op "..") then
    let included ← rangeDots
    rangeUpper structs included (rightOperand rules structs .range)
  else if ← wordIf "_" then return otherExpr
  else if ← peek Peek.lifetime then labeled rules
  else reject

/-! ## Operands -/

/-- The fields that a number with a point selects, one behind the other; answers
whether the point at its end leaves another selection open. -/
def pointedSelection : Parser Bool := fun cursor =>
  match cursor.ahead with
  | .leaf (.literal .number text) line :: rest =>
      let parts := splitPoints text.toList
      let open_ := parts.getLast? == some []
      let indices := if open_ then parts.dropLast else parts
      if indices.all isTupleIndex then .ok (open_, { cursor with ahead := rest })
      else .error line
  | _ => .error cursor.line

/-- A member of a value, called or not. -/
def selection (rules : Rules) : Parser ExprShape := do
  if ← wordIf "await" then return otherExpr
  let named ← member
  let turbofish := named && (← peek (Peek.op "::"))
  if turbofish then
    op "::"
    let _ ← genericArguments rules
  if turbofish || (named && (← peek (Peek.group .paren))) then
    let _ ← inGroup .paren (commaList (rules.expr true))
  return otherExpr

/-- At most a number of calls, indices, selections and question marks behind an atom. -/
def trailersAtMost (rules : Rules) : Nat → ExprShape → Parser ExprShape
  | 0, _ => reject
  | bound + 1, shape => do
      if ← peek (Peek.group .paren) then
        let _ ← inGroup .paren (commaList (rules.expr true))
        trailersAtMost rules bound otherExpr
      else if shape.form != .range && (← peek fun t => Peek.op "." t && !Peek.op ".." t) then
        op "."
        if ← peek Peek.pointed then
          if ← pointedSelection then
            let shape ← selection rules
            trailersAtMost rules bound shape
          else trailersAtMost rules bound otherExpr
        else
          let shape ← selection rules
          trailersAtMost rules bound shape
      else if ← peek (Peek.group .bracket) then
        let _ ← inGroup .bracket (rules.expr true)
        trailersAtMost rules bound otherExpr
      else if shape.form != .range && (← peek (Peek.op "?")) then
        op "?"
        trailersAtMost rules bound otherExpr
      else return shape

/-- What is called, indexed or selected behind an atom. -/
def trailers (rules : Rules) (shape : ExprShape) : Parser ExprShape := do
  trailersAtMost rules (← bound) shape

/-- An operand: attributes, prefix operators, an atom, and what follows it. -/
def unaryRule (rules : Rules) (structs : Bool) : Parser ExprShape := do
  let attributes ← outerAttributes rules
  if ← opIf "&" then
    if ← peek fun trees => Peek.word "raw" trees && Peek.second (Peek.anyOf ["mut", "const"]) trees
    then skip 2
    else
      let _ ← wordIf "mut"
    let operand ← rules.unary structs
    return otherExpr operand.endsInBrace
  else if ← peek fun trees => Peek.op "*" trees || Peek.op "!" trees || Peek.op "-" trees then
    skip 1
    let operand ← rules.unary structs
    return otherExpr operand.endsInBrace
  else
    let start ← line
    let first ← atom rules structs
    let shape ← trailers rules first
    if shape.form == .range && !attributes.isEmpty then rejectAt start
    return shape

/-! ## Operators -/

/-- A cast does not bind what is called, indexed or selected behind it. -/
def castEnd : Parser Unit := do
  if ← peek fun trees =>
      Peek.trailer trees || Peek.group .bracket trees || Peek.group .paren trees then
    reject

/-- The operators of at least a strength that follow an operand. -/
def operatorsRule (rules : Rules) (left : ExprShape) (structs : Bool) (base : Precedence) :
    Parser ExprShape := do
  if left.form == .range then return left
  let trees := (← get).ahead
  match binaryOperator? trees with
  | some (operator, precedence) =>
      if precedence.rank < base.rank then return left
      if precedence == .compare && left.form == .comparison then reject
      op operator
      let right ← rightOperand rules structs precedence
      let form := if precedence == .compare then .comparison else .other
      rules.operators { form, endsInBrace := right.endsInBrace } structs base
  | none =>
      if Precedence.assign.rank ≥ base.rank && Peek.op "=" trees && !Peek.op "=>" trees then
        op "="
        let right ← rightOperand rules structs .assign
        rules.operators (otherExpr right.endsInBrace) structs base
      else if Precedence.range.rank ≥ base.rank && Peek.op ".." trees then
        let included ← rangeDots
        let shape ← rangeUpper structs included (rightOperand rules structs .range)
        rules.operators shape structs base
      else if Precedence.cast.rank ≥ base.rank && Peek.word "as" trees then
        word "as"
        let type ← rules.type false
        castEnd
        rules.operators (otherExpr type.endsInBrace) structs base
      else return left

/-- An expression. -/
def exprRule (rules : Rules) (structs : Bool) : Parser ExprShape := do
  let left ← rules.unary structs
  rules.operators left structs .jump

/-! ## Expressions as statements -/

/-- The expression like a block that stands ahead, if there is one. -/
def blockAhead? (rules : Rules) (trees : List Tree) : Option (Parser ExprShape) :=
  if Peek.word "if" trees then some (conditional rules)
  else if Peek.word "while" trees then some (whileLoop rules)
  else if Peek.word "for" trees && !Peek.generics (trees.drop 1) then some (forLoop rules)
  else if Peek.word "loop" trees then some (endlessLoop rules)
  else if Peek.word "match" trees then some (matchExpr rules)
  else if Peek.word "try" trees && Peek.second (Peek.group .brace) trees then some (tryBlock rules)
  else if Peek.word "unsafe" trees then some (wordBody rules "unsafe")
  else if Peek.word "const" trees && Peek.second (Peek.group .brace) trees then
    some (wordBody rules "const")
  else if Peek.group .brace trees then
    some do
      body rules
      return blockExpr
  else if Peek.lifetime trees then some (labeled rules)
  else none

/-- An expression that ends early if it is like a block: only a selection or a
question mark carries it on. -/
def statementExprRule (rules : Rules) : Parser ExprShape := do
  let _ ← outerAttributes rules
  let trees := (← get).ahead
  match blockAhead? rules trees with
  | some blockLike =>
      let shape ← blockLike
      if ← peek Peek.trailer then
        let shape ← trailers rules shape
        rules.operators shape true .jump
      else return shape
  | none =>
      let shape ← rules.unary true
      rules.operators shape true .jump

end Parser

end EventDispatch.Source
