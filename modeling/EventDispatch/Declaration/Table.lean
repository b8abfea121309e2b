import EventDispatch.Declaration
import EventDispatch.Log

/-!
# The table of declarations

All declarations read so far, one for each path, in the order in which the
paths were first met.  A declaration with a known path takes the place of the
earlier one, and a record says so.
-/

namespace EventDispatch

/-- Declarations in order of first appearance of their paths. -/
structure Table where
  toList : List Declaration
  deriving DecidableEq

/-- How much a table holds. -/
structure TableStats where
  declarations : Nat
  marked : Nat
  members : Nat
  deriving DecidableEq

namespace Table

/-- The table without declarations. -/
def empty : Table := ⟨[]⟩

/-- The declaration at a path. -/
def get? (table : Table) (path : String) : Option Declaration :=
  table.toList.find? fun declaration => declaration.path == path

/-- Puts a declaration in the place of the one with its path, or at the end. -/
def place (declaration : Declaration) : List Declaration → List Declaration
  | [] => [declaration]
  | first :: rest =>
      if first.path = declaration.path then declaration :: rest
      else first :: place declaration rest

/-- The table with one more declaration. -/
def add (table : Table) (declaration : Declaration) : Table :=
  ⟨place declaration table.toList⟩

/-- The table with further declarations, added one by one. -/
def extend (table : Table) (declarations : List Declaration) : Table :=
  declarations.foldl add table

/-- The record of a replacement, when adding the declaration replaces another. -/
def replacement? (table : Table) (declaration : Declaration) : Option Log.Record :=
  (table.get? declaration.path).map fun earlier =>
    .warn (s!"Declaration {declaration.path} redefined in {declaration.origin.describe}, " ++
      s!"replacing the one from {earlier.origin.describe}")

/-- The records made when declarations are added one by one. -/
def replacements (table : Table) : List Declaration → List Log.Record
  | [] => []
  | declaration :: rest =>
      (table.replacement? declaration).toList ++ (table.add declaration).replacements rest

/-- The number of declarations. -/
def size (table : Table) : Nat :=
  table.toList.length

/-- The declarations that carry a marker. -/
def marked (table : Table) (marker : String) : List Declaration :=
  table.toList.filter (·.hasMarker marker)

/-- Counts of declarations, of those with the marker, and of all members. -/
def stats (table : Table) (marker : String) : TableStats where
  declarations := table.size
  marked := (table.marked marker).length
  members := (table.toList.flatMap fun declaration => declaration.members).length

end Table

end EventDispatch
