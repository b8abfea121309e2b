import EventDispatch.Number.Notation
import EventDispatch.Text.Json

/-!
# Parameters

The parameters of an event: values under keys, in the order in which the keys
were first inserted.  A value inserted under a known key takes the place of the
earlier one.
-/

namespace EventDispatch

/-! ## Values -/

/-- The value of a parameter. -/
inductive ParamValue where
  | text (value : String)
  | signed (value : Int)
  | unsigned (value : Nat)
  | floating (value : Number.Floating)
  | truth (value : Bool)
  deriving DecidableEq

namespace ParamValue

/-- Floating-point numbers for readers: never with an exponent. -/
def shownStyle : Number.Style where
  plain := fun _ => true
  showsPoint := false
  tie := .up
  nan := "NaN"
  infinity := "inf"
  minusInfinity := "-inf"

/-- Floating-point numbers in JSON: with an exponent when very small or large, and
nothing for what is not finite. -/
def jsonStyle : Number.Style where
  plain := fun power => -5 ≤ power && power < 16
  showsPoint := true
  tie := .even
  nan := "null"
  infinity := "null"
  minusInfinity := "null"

/-- The values are equal: of the same sort, and equal as such. -/
def equal : ParamValue → ParamValue → Bool
  | text value, text other => value == other
  | signed value, signed other => value == other
  | unsigned value, unsigned other => value == other
  | floating value, floating other => value.equal other
  | truth value, truth other => value == other
  | _, _ => false

/-- The value as text. -/
def describe : ParamValue → String
  | text value => value
  | signed value => toString value
  | unsigned value => toString value
  | floating value => shownStyle.write value
  | truth value => if value then "true" else "false"

/-- The value as JSON. -/
def json : ParamValue → Text.Json.Value
  | text value => .string value
  | signed value => .whole value
  | unsigned value => .whole value
  | floating value => .number (jsonStyle.write value)
  | truth value => .truth value

/-- The text of a value that is one. -/
def text? : ParamValue → Option String
  | text value => some value
  | _ => none

end ParamValue

/-! ## Mappings -/

/-- Values under keys, in order of first insertion. -/
structure Params where
  toList : List (String × ParamValue)
  deriving DecidableEq

namespace Params

/-- No parameters. -/
def empty : Params := ⟨[]⟩

/-- Puts a value in the place of the one under its key, or at the end. -/
def place (key : String) (value : ParamValue) :
    List (String × ParamValue) → List (String × ParamValue)
  | [] => [(key, value)]
  | entry :: rest =>
      if entry.1 = key then (key, value) :: rest else entry :: place key value rest

/-- The parameters with a value under a key. -/
def insert (params : Params) (key : String) (value : ParamValue) : Params :=
  ⟨place key value params.toList⟩

/-- The parameters of a list of entries, inserted one by one. -/
def ofList (entries : List (String × ParamValue)) : Params :=
  entries.foldl (fun params entry => params.insert entry.1 entry.2) empty

/-- The value under a key. -/
def get? (params : Params) (key : String) : Option ParamValue :=
  params.toList.lookup key

/-- The keys in order. -/
def keys (params : Params) : List String :=
  params.toList.map (·.1)

/-- The number of keys. -/
def size (params : Params) : Nat :=
  params.toList.length

/-- Two lists of entries are equal, entry by entry. -/
def equalEntries : List (String × ParamValue) → List (String × ParamValue) → Bool
  | [], [] => true
  | entry :: rest, other :: others =>
      entry.1 == other.1 && entry.2.equal other.2 && equalEntries rest others
  | _, _ => false

/-- The parameters are equal: the same keys in the same order with equal values. -/
def equal (params other : Params) : Bool :=
  equalEntries params.toList other.toList

/-- The parameters as text. -/
def describe (params : Params) : String :=
  "\x7b" ++ ", ".intercalate (params.toList.map fun (key, value) => key ++ "=" ++ value.describe) ++
    "\x7d"

/-- The parameters as JSON. -/
def json (params : Params) : Text.Json.Value :=
  .object (params.toList.map fun (key, value) => (key, value.json))

end Params

end EventDispatch
