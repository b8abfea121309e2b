import EventDispatch.Dispatch
import EventDispatch.Dispatch.Code
import EventDispatch.Tracker

/-!
# The meaning of dispatch code

What the generated function does with a value of the event type.  The arms of its match
are tried from the first to the last.  One that selects the variant of the value binds
the fields it names to what the value holds, and hands one event to the tracker; one that
leaves the function tracks nothing.  Where no arm accepts the value, or a path or name in
the result of the one that does means nothing, the code has no meaning.
-/

namespace EventDispatch

open Source (Names)

/-! ## Values -/

/-- A value of an event type: its variant and what its named fields hold. -/
structure EventValue where
  variant : String
  fields : List (String × ParamValue)
  deriving DecidableEq

/-- Two identifiers are the same name; a raw marker makes no difference. -/
def sameName (first second : String) : Bool :=
  Name.unraw first == Name.unraw second

/-- What a name is bound to. -/
def boundTo? (bound : List (String × ParamValue)) (name : String) : Option ParamValue :=
  (bound.find? fun entry => sameName entry.1 name).map (·.2)

/-! ## Types -/

/-- The types that dispatch code is about: that of the events, that of parameters, and that
of their values. -/
structure Scope where
  event : Names
  params : Names
  paramValue : Names
  deriving DecidableEq

/-- The types that an implementation is about. -/
def Dispatch.scope (dispatch : Dispatch) : Scope where
  event := dispatch.set.names
  params := dispatch.params.names
  paramValue := dispatch.paramValue.names

/-- The name that a path has behind that of a type. -/
def Source.Names.behind? (type path : Names) : Option String :=
  if path.rooted = type.rooted ∧ path.segments.dropLast = type.segments then
    path.segments.getLast?
  else none

/-! ## The match -/

namespace Code

variable (scope : Scope)

/-- What the pattern binds the fields of a value to, which must have them all. -/
def Selection.bound? (selection : Selection) (value : EventValue) :
    Option (List (String × ParamValue)) :=
  selection.fields.mapM fun field => (boundTo? value.fields field).map fun held => (field, held)

/-- The entry that a pair makes. -/
def Pair.item? (bound : List (String × ParamValue)) (pair : Pair) :
    Option (String × ParamValue) :=
  if scope.paramValue.behind? pair.function = some "from" then
    (boundTo? bound pair.argument).map fun held => (pair.key, held)
  else none

/-- The parameters that are made: none at all, or those of the pairs. -/
def Parameters.params? (bound : List (String × ParamValue)) (parameters : Parameters) :
    Option Params :=
  match scope.params.behind? parameters.function, parameters.pairs with
  | some "new", none => some .empty
  | some "from", some pairs => (pairs.mapM (Pair.item? scope bound)).map Params.ofList
  | _, _ => none

/-- The event that an arm hands over for a value. -/
def Selection.event? (value : EventValue) (selection : Selection) : Option Event := do
  let bound ← selection.bound? value
  let params ← selection.parameters.params? scope bound
  return { name := selection.eventName, params }

/-- The pattern fits the value. -/
def Selection.accepts (value : EventValue) (selection : Selection) : Bool :=
  (scope.event.behind? selection.variant).any (sameName · value.variant)

/-- The arm selects the value. -/
def MatchArm.accepts (value : EventValue) : MatchArm → Bool
  | .select selection => selection.accepts scope value
  | .leave => false

/-- The calls of the tracker that the function makes for a value; `none` where the code has
no meaning. -/
def calls? (value : EventValue) : List MatchArm → Option (List Event)
  | [] => none
  | .leave :: _ => some []
  | .select selection :: rest =>
      if selection.accepts scope value then
        (selection.event? scope value).map fun event => [event]
      else calls? value rest

end Code

end EventDispatch
