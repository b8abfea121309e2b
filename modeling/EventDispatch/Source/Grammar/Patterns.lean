import EventDispatch.Source.Grammar.Generics

/-!
# Patterns
-/

namespace EventDispatch.Source

namespace Peek

/-- A bar that separates patterns stands ahead. -/
def bar : Peek := fun trees => op "|" trees && !op "||" trees && !op "|=" trees

/-- A path, macro call, struct or range pattern stands ahead. -/
def pathPattern : Peek := fun trees =>
  (name trees &&
      (second (op "::") trees || second (op "!") trees || second (group .brace) trees ||
        second (group .paren) trees || second (op "..") trees)) ||
    (word "self" trees && second (op "::") trees) || op "::" trees || op "<" trees ||
    anyOf ["Self", "super", "crate"] trees

/-- What ends a range pattern without an upper end stands ahead. -/
def rangePatternEnd : Peek := fun trees =>
  atEnd trees || op "|" trees || op "=" trees || colon trees || op "," trees || op ";" trees ||
    word "if" trees

end Peek

namespace Parser

/-- One or more patterns with bars between them; a bar in front is allowed. -/
def patterns (rules : Rules) : Parser PatternShape := do
  let leading ← opIf "|"
  let first ← rules.pattern
  let more ← whilePeek Peek.bar do
    op "|"
    rules.pattern
  return if leading || !more.isEmpty then .other else first

/-- An end of a range pattern, and whether there is one. -/
def rangePatternBound (rules : Rules) : Parser Bool := do
  if ← peek Peek.rangePatternEnd then return false
  if ← peek Peek.literal then literal
  else if ← peek fun trees =>
      Peek.name trees || Peek.op "::" trees || Peek.op "<" trees ||
        Peek.anyOf ["self", "Self", "super", "crate"] trees then
    let _ ← qualifiedPath rules true
  else if ← peek (Peek.word "const") then
    word "const"
    body rules
  else reject
  return true

/-- The dots of a range pattern, and whether the upper end is included. -/
def rangePatternDots : Parser Bool := do
  if ← opIf "..=" then return true
  else if ← opIf "..." then return true
  else
    op ".."
    return false

/-- A range pattern behind its lower end. -/
def rangePatternRest (rules : Rules) : Parser PatternShape := do
  let dots ← line
  let included ← rangePatternDots
  let ended ← rangePatternBound rules
  if included && !ended then reject
  return if ended then .other else .openRange dots

/-- A member in a struct: a name or a number; answers whether it is a name. -/
def member : Parser Bool := do
  if ← peek Peek.name then
    let _ ← name
    return true
  else
    require Peek.tupleIndex
    skip 1
    return false

/-- A field of a struct pattern. -/
def fieldPattern (rules : Rules) : Parser Unit := do
  let boxed ← wordIf "box"
  let byRef ← wordIf "ref"
  let mutable ← wordIf "mut"
  if boxed || byRef || mutable then
    let _ ← name
  else
    let named ← member
    if !named || (← peek (Peek.op ":")) then
      op ":"
      let _ ← patterns rules

/-- At most a number of fields of a struct pattern; two dots end them. -/
def fieldPatternsAtMost (rules : Rules) : Nat → Parser Unit
  | 0 => reject
  | bound + 1 => do
      if ← peek Peek.atEnd then return ()
      let _ ← outerAttributes rules
      if ← opIf ".." then return ()
      fieldPattern rules
      if ← peek Peek.atEnd then return ()
      op ","
      fieldPatternsAtMost rules bound

/-- A pattern that starts with a path. -/
def pathPattern (rules : Rules) : Parser PatternShape := do
  let (qualified, shape) ← qualifiedPath rules true
  if !qualified && shape.plain && (← peek Peek.callMark) then
    op "!"
    let _ ← anyGroup
    return .other
  if ← peek (Peek.group .brace) then
    inGroup .brace do
      fieldPatternsAtMost rules (← bound)
    return .other
  else if ← peek (Peek.group .paren) then
    let _ ← inGroup .paren (commaList (patterns rules))
    return .other
  else if ← peek (Peek.op "..") then rangePatternRest rules
  else return .other

/-- A pattern that binds a name. -/
def bindingPattern (rules : Rules) : Parser PatternShape := do
  let _ ← wordIf "ref"
  let _ ← wordIf "mut"
  let _ ← nameOr ["self"]
  if ← opIf "@" then
    let _ ← rules.pattern
  return .other

/-- An element of a slice pattern.  A range without an end needs parentheses there. -/
def slicePatternElement (rules : Rules) : Parser Unit := do
  match ← patterns rules with
  | .openRange dots => rejectAt dots
  | _ => return ()

/-- Two dots, alone or with an upper end. -/
def dotsPattern (rules : Rules) : Parser PatternShape := do
  let dots ← line
  let included ← opIf "..="
  unless included do op ".."
  let ended ← rangePatternBound rules
  if ended then return .openRange dots
  if included then reject
  return .rest

/-- A pattern without alternatives at its top. -/
def patternRule (rules : Rules) : Parser PatternShape := do
  if ← peek Peek.pathPattern then pathPattern rules
  else if ← wordIf "_" then return .other
  else if ← wordIf "box" then
    let _ ← rules.pattern
    return .other
  else if ← peek fun trees =>
      Peek.op "-" trees || Peek.literal trees || Peek.word "const" trees then
    let _ ← rangePatternBound rules
    if ← peek (Peek.op "..") then rangePatternRest rules else return .other
  else if ← peek fun trees => Peek.anyOf ["ref", "mut", "self"] trees || Peek.name trees then
    bindingPattern rules
  else if ← opIf "&" then
    let _ ← wordIf "mut"
    let _ ← rules.pattern
    return .other
  else if ← peek (Peek.group .paren) then
    let _ ← inGroup .paren (commaList (patterns rules))
    return .other
  else if ← peek (Peek.group .bracket) then
    let _ ← inGroup .bracket (commaList (slicePatternElement rules))
    return .other
  else if ← peek fun trees => Peek.op ".." trees && !Peek.op "..." trees then dotsPattern rules
  else reject

end Parser

end EventDispatch.Source
