import EventDispatch.Source.Grammar.Generics

/-!
# Types
-/

namespace EventDispatch.Source

namespace Parser

/-- A type of which nothing is asked later. -/
def otherType (endsInBrace : Bool := false) : TypeShape :=
  { form := .other, endsInBrace }

/-- The last bound of a list ends in a brace. -/
def lastEndsInBrace (bounds : List BoundShape) : Bool :=
  match bounds.getLast? with
  | some (.trait endsInBrace) => endsInBrace
  | _ => false

/-- Some bound of a list names a trait. -/
def hasTrait (bounds : List BoundShape) : Bool :=
  bounds.any fun
    | .trait _ => true
    | _ => false

/-- The bounds of a trait object; without a trait the parse fails where the
object starts. -/
def objectBounds (rules : Rules) (start : Nat) (plus : Bool) : Parser (List BoundShape) := do
  let found ← bounds rules plus false false
  unless hasTrait found do rejectAt start
  return found

/-- At most a number of further bounds, each behind a plus. -/
def plusBounds (rules : Rules) : Parser (List BoundShape) :=
  whilePeek (Peek.op "+") do
    op "+"
    rules.bound false false

/-- The remaining elements of a tuple type behind its first comma. -/
def tupleRest (rules : Rules) : Parser Unit := do
  op ","
  let _ ← commaList (rules.type true)

/-- What the content of parentheses in a type turned out to be. -/
inductive ParenContent where
  | tuple
  | lifetimes
  | maybeTrait
  | single (shape : TypeShape)

/-- The content of parentheses in a type. -/
def parenContent (rules : Rules) : Parser ParenContent := do
  if ← peek Peek.atEnd then return .tuple
  if ← peek Peek.lifetime then
    let start ← line
    let _ ← objectBounds rules start true
    return .lifetimes
  if ← peek (Peek.op "?") then
    let _ ← traitBound rules false
    return .maybeTrait
  let first ← rules.type true
  if ← peek (Peek.op ",") then
    tupleRest rules
    return .tuple
  return .single first

/-- A type in parentheses, or a bound in parentheses that others follow. -/
def parenType (rules : Rules) (plus : Bool) : Parser TypeShape := do
  match ← inGroup .paren (parenContent rules) with
  | .tuple => return otherType
  | .lifetimes => return { form := .parenthesized }
  | .maybeTrait =>
      let more ← plusBounds rules
      return { form := .bounds more.isEmpty, endsInBrace := lastEndsInBrace more }
  | .single shape =>
      let bound :=
        match shape.form with
        | .path _ => true
        | .bounds single => single
        | _ => false
      if bound && plus && (← peek (Peek.op "+")) then
        let more ← plusBounds rules
        return { form := .bounds more.isEmpty, endsInBrace := lastEndsInBrace more }
      else return { form := .parenthesized }

/-- A name stands in front of the type of a parameter. -/
def parameterNamed (self : Bool) : Peek := fun trees =>
  (Peek.name trees || Peek.word "_" trees || (self && Peek.word "self" trees)) &&
    Peek.second Peek.colon trees

/-- A parameter of a function type. -/
def pointerParameter (rules : Rules) (first : Bool) : Parser Unit := do
  let _ ← outerAttributes rules
  let mutSelf : Peek := fun trees =>
    first && Peek.word "mut" trees && Peek.second (Peek.word "self") trees
  let mutable ← peek mutSelf
  if mutable then word "mut"
  let self := first && (← peek (Peek.word "self"))
  let named ← peek (parameterNamed first)
  if named then
    let _ ← anyWord
    op ":"
  if !(named && self) && (← peek mutSelf) then
    word "mut"
    word "self"
  else if mutable && !named then word "self"
  else
    let _ ← rules.type true

/-- The dots of a function type without a fixed number of parameters stand ahead. -/
def variadicAhead : Peek := fun trees =>
  Peek.op "..." trees ||
    ((Peek.name trees || Peek.word "_" trees) && Peek.second (Peek.op ":") trees &&
      Peek.third (Peek.op "...") trees)

/-- At most a number of parameters of a function type. -/
def pointerParametersAtMost (rules : Rules) (first : Bool) : Nat → Parser Unit
  | 0 => reject
  | bound + 1 => do
      if ← peek Peek.atEnd then return ()
      let _ ← outerAttributes rules
      if ← peek variadicAhead then
        unless ← peek (Peek.op "...") do
          let _ ← anyWord
          op ":"
        op "..."
        let _ ← opIf ","
      else
        pointerParameter rules first
        if ← peek Peek.atEnd then return ()
        op ","
        pointerParametersAtMost rules false bound

/-- The calling convention of a function, if one is stated. -/
def callingConvention : Parser Unit := do
  if ← wordIf "extern" then
    if ← peek Peek.text then text

/-- A function type. -/
def pointerType (rules : Rules) : Parser TypeShape := do
  let _ ← boundLifetimes rules
  let _ ← wordIf "unsafe"
  callingConvention
  word "fn"
  inGroup .paren do
    pointerParametersAtMost rules true (← bound)
  let result ← returnType rules false
  return otherType ((result.map TypeShape.endsInBrace).getD false)

/-- What a type may start with once lifetimes have been introduced. -/
def afterLifetimes : Peek := fun trees =>
  Peek.name trees || Peek.anyOf ["fn", "unsafe", "extern", "super", "self", "Self", "crate"] trees

/-- What a type that names a path may start with. -/
def typePathStart : Peek := fun trees =>
  Peek.name trees || Peek.anyOf ["super", "self", "Self", "crate"] trees || Peek.op "::" trees ||
    Peek.op "<" trees

/-- At most a number of bounds behind a path, each behind a plus; a plus may end them. -/
def pathBoundsAtMost (rules : Rules) : Nat → Parser (List BoundShape × Bool)
  | 0 => reject
  | bound + 1 => do
      if ← opIf "+" then
        if ← peek fun trees => Peek.anyWord trees || Peek.op "::" trees || Peek.op "?" trees ||
            Peek.lifetime trees || Peek.group .paren trees then
          let first ← rules.bound false false
          let (rest, trailing) ← pathBoundsAtMost rules bound
          return (first :: rest, trailing)
        else return ([], true)
      else return ([], false)

/-- A type that starts with a path: the path itself, a macro call, or bounds. -/
def namedType (rules : Rules) (plus introduced : Bool) : Parser TypeShape := do
  let (qualified, shape) ← typePath rules
  if qualified then return otherType shape.endsInBrace
  if shape.plain && (← peek Peek.callMark) then
    op "!"
    let delimiter ← anyGroup
    return otherType (delimiter == .brace)
  if introduced || (plus && (← peek (Peek.op "+"))) then
    if plus then
      let (more, trailing) ← pathBoundsAtMost rules (← bound)
      return {
        form := .bounds (more.isEmpty && !trailing)
        endsInBrace := if more.isEmpty then shape.endsInBrace else lastEndsInBrace more }
    else return { form := .bounds true, endsInBrace := shape.endsInBrace }
  return { form := .path shape, endsInBrace := shape.endsInBrace }

/-- The content of a slice or array type. -/
def arrayContent (rules : Rules) : Parser Unit := do
  let _ ← rules.type true
  if ← opIf ";" then
    let _ ← rules.expr true

/-- A type. -/
def typeRule (rules : Rules) (plus : Bool) : Parser TypeShape := do
  let start ← line
  let introduced ← boundLifetimes rules
  if introduced then require afterLifetimes
  if ← peek (Peek.group .paren) then parenType rules plus
  else if ← peek (Peek.anyOf ["fn", "unsafe", "extern"]) then pointerType rules
  else if ← peek typePathStart then namedType rules plus introduced
  else if ← wordIf "dyn" then
    let _ ← opIf "*"
    let found ← objectBounds rules start plus
    return otherType (lastEndsInBrace found)
  else if ← peek (Peek.group .bracket) then
    inGroup .bracket (arrayContent rules)
    return otherType
  else if ← opIf "*" then
    if ← peek (Peek.anyOf ["const", "mut"]) then skip 1 else reject
    let inner ← rules.type false
    return otherType inner.endsInBrace
  else if ← opIf "&" then
    let _ ← lifetimeIf
    let _ ← wordIf "mut"
    let inner ← rules.type false
    return otherType inner.endsInBrace
  else if ← opIf "!" then return otherType
  else if ← wordIf "impl" then
    let found ← bounds rules plus true true
    unless hasTrait found do rejectAt start
    return otherType (lastEndsInBrace found)
  else if ← wordIf "_" then return otherType
  else if ← peek Peek.lifetime then
    let found ← objectBounds rules start true
    return { form := .bounds (found.length == 1), endsInBrace := lastEndsInBrace found }
  else reject

end Parser

end EventDispatch.Source
