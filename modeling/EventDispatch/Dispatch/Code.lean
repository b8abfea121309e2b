import EventDispatch.Source.Reference

/-!
# Dispatch code read back

What a generated file says about the events it tracks: the arms of its match with the
paths, names and texts that stand there.  It is read from the trees of the file, whoever
wrote them.  The match is the one in the function at the end of the item at the end of
the file, and its result has to be what the function hands to the tracker.
-/

namespace EventDispatch.Code

open Source
open Source.Parser (op opIf word wordIf name peek inGroup commaList whilePeek toEnd)

/-- A pair in the array of the parameters: a key, and the function that makes a value of a
name that the pattern binds. -/
structure Pair where
  key : String
  function : Names
  argument : String
  deriving DecidableEq

/-- The parameters in the result of an arm: a function that is called with nothing or with
an array of pairs. -/
structure Parameters where
  function : Names
  pairs : Option (List Pair)
  deriving DecidableEq

/-- The pattern and the result of an arm that selects a variant. -/
structure Selection where
  variant : Names
  fields : List String
  eventName : String
  parameters : Parameters
  deriving DecidableEq

/-- An arm of the match: it selects a variant, or leaves the function. -/
inductive MatchArm where
  | select (selection : Selection)
  | leave
  deriving DecidableEq

section Reading

variable (rules : Rules)

/-- A path in a pattern or an expression, its arguments left out. -/
def names : Parser Names := do
  let shape ← Parser.path rules true
  return { rooted := shape.rooted, segments := shape.segments }

/-- What a quoted text stands for. -/
def quoted : Parser String := fun cursor =>
  match cursor.ahead with
  | .leaf (.literal .text literal) _ :: rest =>
      match textValue? literal.toList with
      | some value => .ok (value, { cursor with ahead := rest })
      | none => .error cursor.line
  | _ => .error cursor.line

/-- The last element of a list, behind which a comma may stand. -/
def last {α : Type} (element : Parser α) : Parser α := do
  let value ← element
  let _ ← opIf ","
  return value

/-- A pair in the array of the parameters. -/
def pair : Parser Pair :=
  inGroup .paren do
    let key ← quoted
    op ","
    last do
      let function ← names rules
      let argument ← inGroup .paren (last name)
      return { key, function, argument }

/-- What stands in the parentheses behind the function: nothing, or an array of pairs. -/
def pairs : Parser (Option (List Pair)) := do
  if ← peek Peek.atEnd then return none
  else
    let pairs ← inGroup .bracket (commaList (pair rules))
    return some pairs

/-- The parameters in the result of an arm. -/
def parameters : Parser Parameters := do
  let function ← names rules
  let pairs ← inGroup .paren (pairs rules)
  return { function, pairs }

/-- The event name and the parameters. -/
def result : Parser (String × Parameters) :=
  inGroup .paren do
    let eventName ← quoted
    op ","
    let parameters ← last (parameters rules)
    return (eventName, parameters)

/-- What stands behind the arrow of an arm: in braces, or in front of a comma. -/
def behindArrow {α : Type} (result : Parser α) : Parser α := do
  op "=>"
  if ← peek (Peek.group .brace) then
    inGroup .brace do
      let value ← result
      let _ ← opIf ";"
      return value
  else
    let value ← result
    op ","
    return value

/-- The fields that a pattern binds. -/
def fields : Parser (List String) := do
  let fields ← whilePeek Peek.name do
    let field ← name
    op ","
    return field
  op ".."
  return fields

/-- An arm of the match. -/
def arm : Parser MatchArm := do
  if ← wordIf "_" then
    behindArrow (word "return")
    return .leave
  else
    let variant ← names rules
    let fields ← inGroup .brace fields
    let (eventName, parameters) ← behindArrow (result rules)
    return .select { variant, fields, eventName, parameters }

/-- The names of the event and its parameters, as a pattern or as arguments. -/
def handed : Parser Unit :=
  inGroup .paren do
    word "name"
    op ","
    last (word "params")

/-- The statements of the function: they bind the result of the match, and hand it to the
tracker. -/
def body : Parser (List MatchArm) := do
  word "let"
  handed
  op "="
  word "match"
  word "event"
  let arms ← inGroup .brace (toEnd (arm rules))
  op ";"
  word "self"
  op "."
  word "log_event"
  handed
  op ";"
  return arms

end Reading

/-- The content of the braces at the end of some trees. -/
def lastBraces? (trees : List Tree) : Option (List Tree) :=
  match trees.getLast? with
  | some (.group .brace _ _ inner) => some inner
  | _ => none

/-- The arms in the trees of a generated file. -/
def ofTrees? (trees : List Tree) : Option (List MatchArm) := do
  let members ← lastBraces? trees
  let inner ← lastBraces? members
  match body (Rules.level (Item.levels trees)) { ahead := inner, close := 1 } with
  | .ok (arms, { ahead := [], close := _, superfluous := none }) => some arms
  | _ => none

/-- The arms in the text of a generated file. -/
def ofText? (text : String) : Option (List MatchArm) := do
  let trees ← (Tree.ofText text.toList 1).toOption
  ofTrees? trees

end EventDispatch.Code
