import Std.Data.HashMap
import Mathlib.Algebra.GroupWithZero.Nat
import EventDispatch.Declaration.Table

/-!
# Tables in memory

A table is kept as an array of its declarations and an index that gives the place
of every path in the array, so that a path is found without a search.  Every
access to the array is checked: a place beyond its end is a fault, never a
declaration.
-/

namespace EventDispatch

/-- A place beyond the end of the array was asked for. -/
structure PlaceFault where
  place : Nat
  deriving DecidableEq

/-- Declarations in order of first appearance of their paths, and where each path stands. -/
structure IndexedTable where
  declarations : Array Declaration
  places : Std.HashMap String Nat

namespace IndexedTable

/-- The table without declarations. -/
def empty : IndexedTable := ⟨#[], ∅⟩

/-- The declarations in the order of the array. -/
def toTable (table : IndexedTable) : Table := ⟨table.declarations.toList⟩

/-- The declaration at a path. -/
def get? (table : IndexedTable) (path : String) : Except PlaceFault (Option Declaration) :=
  match table.places[path]? with
  | none => .ok none
  | some place =>
      match table.declarations[place]? with
      | some declaration => .ok (some declaration)
      | none => .error ⟨place⟩

/-- The table with one more declaration: it takes the place of the one with its path,
or a new place at the end. -/
def add (table : IndexedTable) (declaration : Declaration) : Except PlaceFault IndexedTable :=
  match table.places[declaration.path]? with
  | some place =>
      if inside : place < table.declarations.size then
        .ok { table with declarations := table.declarations.set place declaration inside }
      else .error ⟨place⟩
  | none =>
      .ok {
        declarations := table.declarations.push declaration
        places := table.places.insert declaration.path table.declarations.size }

/-- The table with further declarations, added one by one. -/
def extend (table : IndexedTable) (declarations : List Declaration) :
    Except PlaceFault IndexedTable :=
  declarations.foldlM add table

/-- The number of declarations. -/
def size (table : IndexedTable) : Nat :=
  table.declarations.size

/-- The declarations that carry a marker. -/
def marked (table : IndexedTable) (marker : String) : List Declaration :=
  table.declarations.toList.filter (·.hasMarker marker)

/-- Counts of declarations, of those with the marker, and of all members. -/
def stats (table : IndexedTable) (marker : String) : TableStats where
  declarations := table.size
  marked := (table.marked marker).length
  members := (table.declarations.toList.map fun declaration => declaration.members.length).sum

end IndexedTable

/-- A call that changes a table. -/
inductive TableCall where
  | add (declaration : Declaration)
  | extend (declarations : List Declaration)
  deriving DecidableEq

namespace TableCall

/-- The declarations that a call adds. -/
def added : TableCall → List Declaration
  | add declaration => [declaration]
  | extend declarations => declarations

/-- The table after a call. -/
def run (table : IndexedTable) : TableCall → Except PlaceFault IndexedTable
  | add declaration => table.add declaration
  | extend declarations => table.extend declarations

end TableCall

/-- The table after calls one behind the other, from the empty one. -/
def IndexedTable.ofCalls (calls : List TableCall) : Except PlaceFault IndexedTable :=
  calls.foldlM TableCall.run empty

end EventDispatch
