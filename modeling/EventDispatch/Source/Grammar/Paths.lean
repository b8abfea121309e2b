import EventDispatch.Source.Grammar

/-!
# Paths, attributes and visibility

A path is plain where it only names a module or a macro.  Elsewhere its
segments may carry arguments: behind the name in types, and behind a double
colon in expressions.
-/

namespace EventDispatch.Source

namespace Peek

/-- The content of the group ahead passes a test. -/
def inside (delimiter : Delimiter) (test : Peek) : Peek
  | .group found _ _ inner :: _ => found == delimiter && test inner
  | _ => false

/-- An opening angle that is not part of a comparison stands ahead. -/
def angle : Peek := fun trees => op "<" trees && !op "<=" trees

/-- Arguments in angles stand ahead; in an expression they stand behind a double colon. -/
def argumentsFollow (inExpr : Bool) : Peek := fun trees =>
  (!inExpr && angle trees) || (op "::" trees && third (op "<") trees)

/-- A group in parentheses stands ahead, or behind a double colon. -/
def callParens : Peek := fun trees =>
  group .paren trees || (op "::" trees && third (group .paren) trees)

/-- A double colon stands ahead that goes on with a segment. -/
def segmentFollows : Peek := fun trees =>
  op "::" trees && !third (group .paren) trees

/-- The mark of a macro call stands ahead. -/
def callMark : Peek := fun trees => op "!" trees && !op "!=" trees

end Peek

namespace Parser

/-! ## Plain paths -/

/-- The segments of a plain path, of at most a number. -/
def plainSegmentsAtMost : Nat → Parser (List String)
  | 0 => reject
  | bound + 1 => do
      let segment ← nameOr ["super", "self", "Self", "crate"]
      if ← opIf "::" then
        let rest ← plainSegmentsAtMost bound
        return segment :: rest
      else return [segment]

/-- A path without arguments. -/
def plainPath : Parser AttributePath := do
  let rooted ← opIf "::"
  let segments ← plainSegmentsAtMost (← bound)
  return { rooted, segments }

/-! ## Attributes -/

/-- The content of an attribute: a path, alone or with a group or a value. -/
def attributeContent (rules : Rules) : Parser AttributePath := do
  let path ←
    if ← wordIf "unsafe" then pure { rooted := false, segments := ["unsafe"] } else plainPath
  if ← peek fun trees => [.paren, .bracket, .brace].any fun d => Peek.group d trees then
    let _ ← anyGroup
  else if ← peek fun trees =>
      Peek.op "=" trees && !Peek.op "==" trees && !Peek.op "=>" trees then
    op "="
    if ← peek fun trees => Peek.op "#" trees && Peek.second (Peek.group .bracket) trees then reject
    let _ ← rules.expr true
  return path

/-- An attribute of what follows it. -/
def outerAttribute (rules : Rules) : Parser AttributePath := do
  op "#"
  inGroup .bracket (attributeContent rules)

/-- The attributes of what follows them. -/
def outerAttributes (rules : Rules) : Parser (List AttributePath) :=
  whilePeek (Peek.op "#") (outerAttribute rules)

/-- An attribute of what surrounds it. -/
def innerAttribute (rules : Rules) : Parser AttributePath := do
  op "#"
  op "!"
  inGroup .bracket (attributeContent rules)

/-- The attributes of what surrounds them. -/
def innerAttributes (rules : Rules) : Parser (List AttributePath) :=
  whilePeek (fun trees => Peek.op "#" trees && Peek.second (Peek.op "!") trees)
    (innerAttribute rules)

/-! ## Visibility -/

/-- The visibility of a declaration, and whether one is stated.  A group behind
`pub` belongs to it only if it names one place or starts with `in`. -/
def visibility : Parser Bool := do
  if ← wordIf "pub" then
    if ← peek (Peek.inside .paren fun trees =>
        Peek.anyOf ["crate", "self", "super"] trees && trees.length == 1) then
      skip 1
    else if ← peek (Peek.inside .paren (Peek.word "in")) then
      let _ ← inGroup .paren do
        word "in"
        plainPath
    return true
  else return false

/-! ## Blocks -/

/-- A block: statements in braces. -/
def block (rules : Rules) : Parser Unit :=
  inGroup .brace rules.statements

/-- The body of an expression: a block that may start with attributes. -/
def body (rules : Rules) : Parser Unit :=
  inGroup .brace do
    let _ ← innerAttributes rules
    rules.statements

/-! ## Arguments and segments -/

/-- A constant among the arguments of a path. -/
def constArgument (rules : Rules) : Parser Unit := do
  if ← peek Peek.literal then literal
  else if ← peek Peek.name then
    let _ ← name
  else if ← peek (Peek.group .brace) then body rules
  else reject

/-- The type behind an arrow, if there is one. -/
def returnType (rules : Rules) (plus : Bool) : Parser (Option TypeShape) := do
  if ← opIf "->" then
    let shape ← rules.type plus
    return some shape
  else return none

/-- The arguments of a function trait: types in parentheses and a result. -/
def parenArguments (rules : Rules) : Parser (Option TypeShape) := do
  let _ ← inGroup .paren (commaList (rules.type true))
  returnType rules false

/-- The bounds of an associated type, or nothing where the list ends. -/
def constraintBounds (rules : Rules) : Parser Unit := do
  let _ ← joined (fun trees => Peek.op "," trees || Peek.op ">" trees) "+" (rules.bound false true)

/-- One argument in angles: a lifetime, a constant, a type, or what an
associated type or constant is equal to or bounded by. -/
def genericArgument (rules : Rules) : Parser Unit := do
  if ← peek fun trees => Peek.lifetime trees && !Peek.second (Peek.op "+") trees then lifetime
  else if ← peek fun trees => Peek.literal trees || Peek.group .brace trees then
    constArgument rules
  else
    let shape ← rules.type true
    match shape.form with
    | .path path =>
        if !path.rooted && path.segments.length == 1 && path.arguments != .paren then
          if ← opIf "=" then
            if ← peek fun trees => Peek.literal trees || Peek.group .brace trees then
              constArgument rules
            else
              let _ ← rules.type true
          else if ← opIf ":" then constraintBounds rules
    | _ => return ()

/-- Arguments in angles, each read by a parser. -/
def inAngles {α : Type} (argument : Parser α) : Parser (List α) := do
  op "<"
  let arguments ← separated (Peek.op ">") (op ",") argument
  op ">"
  return arguments

/-- The arguments in angles; answers whether there are none. -/
def genericArguments (rules : Rules) : Parser Bool := do
  let arguments ← inAngles (genericArgument rules)
  return arguments.isEmpty

/-- A segment of a path with its arguments.  In an expression they stand behind
a double colon. -/
def segment (rules : Rules) (inExpr : Bool) : Parser (String × Arguments) := do
  if ← peek (Peek.anyOf ["super", "self", "crate", "try"]) then
    let word ← anyWord
    return (word, .absent)
  let found ← nameOr ["Self"]
  if ← peek (Peek.argumentsFollow inExpr) then
    let _ ← opIf "::"
    let empty ← genericArguments rules
    return (found, .angle empty)
  else return (found, .absent)

/-! ## Paths -/

/-- The shape of a path with the given segments. -/
def shapeOf (rooted : Bool) (segments : List (String × Arguments)) : PathShape where
  rooted
  segments := segments.map (·.1)
  arguments := (segments.getLast?.map (·.2)).getD .absent
  plain := segments.all fun (_, arguments) => arguments == .absent

/-- Further segments, each behind a double colon. -/
def furtherSegments (rules : Rules) (inExpr : Bool) (test : Peek) :
    Parser (List (String × Arguments)) :=
  whilePeek test do
    op "::"
    segment rules inExpr

/-- A path with arguments. -/
def path (rules : Rules) (inExpr : Bool) : Parser PathShape := do
  let rooted ← opIf "::"
  let first ← segment rules inExpr
  let more ← furtherSegments rules inExpr Peek.segmentFollows
  return shapeOf rooted (first :: more)

/-- A path that may start with a type in angles, with the trait that names its
associated items; answers whether it does. -/
def qualifiedPath (rules : Rules) (inExpr : Bool) : Parser (Bool × PathShape) := do
  if ← opIf "<" then
    let _ ← rules.type true
    if ← wordIf "as" then
      let _ ← path rules false
    op ">"
    op "::"
    let first ← segment rules inExpr
    let more ← furtherSegments rules inExpr (Peek.op "::")
    return (true, shapeOf false (first :: more))
  else
    let shape ← path rules inExpr
    return (false, shape)

/-- At most a number of argument lists in parentheses behind a path.  A path may
go on behind one that has no result or a result in parentheses. -/
def callSuffixesAtMost (rules : Rules) : Nat → PathShape → Parser PathShape
  | 0, _ => reject
  | bound + 1, shape => do
      let bare := shape.arguments == .absent || shape.arguments == .angle true
      if bare && (← peek Peek.callParens) then
        let _ ← opIf "::"
        let result ← parenArguments rules
        let called := { shape with
          arguments := .paren
          plain := false
          endsInBrace := (result.map TypeShape.endsInBrace).getD false }
        if (result.map fun type => type.form == .parenthesized).getD true then
          let more ← furtherSegments rules false Peek.segmentFollows
          if more.isEmpty then return called
          else
            callSuffixesAtMost rules bound {
              rooted := shape.rooted
              segments := shape.segments ++ more.map (·.1)
              arguments := (more.getLast?.map (·.2)).getD .absent
              plain := false }
        else return called
      else return shape

/-- A path in a type, with argument lists in parentheses. -/
def typePath (rules : Rules) : Parser (Bool × PathShape) := do
  let (qualified, shape) ← qualifiedPath rules false
  let shape ← callSuffixesAtMost rules (← bound) shape
  return (qualified, shape)

end Parser

end EventDispatch.Source
