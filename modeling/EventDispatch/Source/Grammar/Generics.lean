import EventDispatch.Source.Grammar.Paths

/-!
# Bounds, generic parameters and where clauses
-/

namespace EventDispatch.Source

namespace Peek

/-- Generic parameters stand ahead rather than the type of a qualified path. -/
def generics : Peek := fun trees =>
  op "<" trees &&
    (second (op ">") trees || second (op "#") trees || second (word "const") trees ||
      ((second lifetime trees || second name trees) &&
        (third (op ">") trees || third (op ",") trees || third (op "=") trees ||
          (third (op ":") trees && !third (op "::") trees))))

/-- A single colon stands ahead. -/
def colon : Peek := fun trees => op ":" trees && !op "::" trees

/-- What a where clause or a predicate of one stops at stands ahead. -/
def clauseEnd : Peek := fun trees =>
  atEnd trees || group .brace trees || op "," trees || op ";" trees || colon trees || op "=" trees

end Peek

namespace Parser

/-! ## Generic parameters -/

/-- A lifetime parameter. -/
def lifetimeParameter : Parser Unit := do
  lifetime
  if ← opIf ":" then
    let _ ← joined (fun trees => Peek.atEnd trees || Peek.op "," trees || Peek.op ">" trees) "+"
      lifetime

/-- A type parameter. -/
def typeParameter (rules : Rules) : Parser Unit := do
  let _ ← name
  if ← opIf ":" then
    let stop : Peek := fun trees =>
      Peek.atEnd trees || Peek.op "," trees || Peek.op ">" trees || Peek.op "=" trees
    let _ ← joined stop "+" (rules.bound false true)
  if ← opIf "=" then
    let _ ← rules.type true

/-- A constant parameter. -/
def constParameter (rules : Rules) : Parser Unit := do
  word "const"
  let _ ← name
  op ":"
  let _ ← rules.type true
  if ← opIf "=" then constArgument rules

/-- A generic parameter; where `blank` allows it, an underscore stands for one. -/
def genericParameter (rules : Rules) (blank : Bool) : Parser Unit := do
  let _ ← outerAttributes rules
  if ← peek Peek.lifetime then lifetimeParameter
  else if ← peek Peek.name then typeParameter rules
  else if ← peek (Peek.word "const") then constParameter rules
  else if blank then word "_"
  else reject

/-- The generic parameters of a declaration, and whether there are any. -/
def generics (rules : Rules) : Parser Bool := do
  if ← opIf "<" then
    let parameters ← separated (Peek.op ">") (op ",") (genericParameter rules true)
    op ">"
    return !parameters.isEmpty
  else return false

/-- The parameters that `for` introduces, and whether it stands ahead. -/
def boundLifetimes (rules : Rules) : Parser Bool := do
  if ← wordIf "for" then
    op "<"
    let _ ← separated (Peek.op ">") (op ",") (genericParameter rules false)
    op ">"
    return true
  else return false

/-! ## Bounds -/

/-- A parameter in the list of captured ones. -/
def capturedParameter : Parser Unit := do
  if ← peek Peek.lifetime then lifetime
  else
    let _ ← nameOr ["Self"]

/-- The list of captured parameters. -/
def capture : Parser Unit := do
  word "use"
  op "<"
  let _ ← separated (Peek.op ">") (op ",") capturedParameter
  op ">"

/-- The mark of a constant trait.  Where `constant` does not allow it, the parse
fails at the mark. -/
def constMark (constant : Bool) : Parser Unit := do
  let start ← line
  if ← opIf "~" then
    word "const"
    unless constant do rejectAt start
  else if ← wordIf "const" then
    unless constant do rejectAt start

/-- A trait as a bound; answers whether it ends in a brace. -/
def traitBound (rules : Rules) (constant : Bool) : Parser Bool := do
  let introduced ← boundLifetimes rules
  constMark constant
  if ← opIf "?" then
    unless introduced do
      let _ ← boundLifetimes rules
  let shape ← path rules false
  let bare := shape.arguments == .absent || shape.arguments == .angle true
  if bare && (← peek Peek.callParens) then
    let _ ← opIf "::"
    let result ← parenArguments rules
    return (result.map TypeShape.endsInBrace).getD false
  else return shape.endsInBrace

/-- A bound: a lifetime, a list of captured parameters, or a trait, which may
stand in parentheses. -/
def boundRule (rules : Rules) (mayCapture constant : Bool) : Parser BoundShape := do
  let start ← line
  if ← peek Peek.lifetime then
    lifetime
    return .lifetime
  else if ← peek (Peek.word "use") then
    capture
    unless mayCapture do rejectAt start
    return .capture
  else if ← peek (Peek.group .paren) then
    let _ ← inGroup .paren (traitBound rules constant)
    return .trait false
  else
    let endsInBrace ← traitBound rules constant
    return .trait endsInBrace

/-- What a further bound may start with stands ahead. -/
def boundStart : Peek := fun trees =>
  Peek.anyWord trees || Peek.op "::" trees || Peek.op "?" trees || Peek.lifetime trees ||
    Peek.group .paren trees || Peek.op "~" trees

/-- At most a number of bounds; more than one only where `plus` allows it. -/
def boundsAtMost (plus : Bool) (element : Parser BoundShape) : Nat → Parser (List BoundShape)
  | 0 => reject
  | bound + 1 => do
      let first ← element
      if plus && (← peek (Peek.op "+")) then
        op "+"
        if ← peek boundStart then
          let rest ← boundsAtMost plus element bound
          return first :: rest
        else return [first]
      else return [first]

/-- One or more bounds. -/
def bounds (rules : Rules) (plus mayCapture constant : Bool) : Parser (List BoundShape) := do
  boundsAtMost plus (rules.bound mayCapture constant) (← bound)

/-! ## Where clauses -/

/-- A predicate of a where clause. -/
def predicate (rules : Rules) : Parser Unit := do
  if ← peek fun trees => Peek.lifetime trees && Peek.second (Peek.op ":") trees then
    lifetime
    op ":"
    let stop : Peek := fun trees => Peek.clauseEnd trees || Peek.op ":" trees
    let _ ← joined stop "+" lifetime
  else
    let _ ← boundLifetimes rules
    let _ ← rules.type true
    op ":"
    let _ ← joined Peek.clauseEnd "+" (rules.bound false true)

/-- A where clause, and whether there is one. -/
def whereClause (rules : Rules) : Parser Bool := do
  if ← wordIf "where" then
    if ← peek Peek.generics then reject
    let _ ← joined Peek.clauseEnd "," (predicate rules)
    return true
  else return false

end Parser

end EventDispatch.Source
