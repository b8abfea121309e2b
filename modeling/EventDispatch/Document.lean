import EventDispatch.Number.Binary

/-!
# TOML documents

A document is a table of keys and nodes.  Every node knows the span of text it
was written in, so that a reader of the document can point at what it does not
accept.

Tables come about in several ways, and the way decides what may be added to
them later: a table with a header of its own takes no second header, one that
only lies on the way to another may still get its header, and one made by a
dotted key takes further dotted keys but no header.
-/

namespace EventDispatch.Document

/-- A stretch of a text, in bytes from its start. -/
structure Span where
  start : Nat
  stop : Nat
  deriving DecidableEq

/-- A key with the place where it was written. -/
structure Key where
  name : String
  span : Span
  deriving DecidableEq

/-- How a table came about. -/
inductive TableForm where
  | headed
  | implied
  | dotted
  | inline
  | inlineDotted
  deriving DecidableEq

/-- A value without inner structure. -/
inductive Scalar where
  | text (value : String)
  | whole (value : Int)
  | floating (value : Number.Floating)
  | truth (value : Bool)
  | moment
  deriving DecidableEq

/-- A table over some type of nodes. -/
structure TableOf (node : Type) where
  form : TableForm
  entries : List (Key × node)
  span : Option Span

/-- A node of a document. -/
inductive Node where
  | scalar (value : Scalar) (span : Span)
  | list (items : List Node) (span : Span)
  | table (content : TableOf Node)
  | tables (items : List (TableOf Node)) (span : Option Span)

/-- A table of a document. -/
abbrev Table := TableOf Node

namespace Node

/-- Where the node was written; tables without header or braces have no place. -/
def span? : Node → Option Span
  | .scalar _ span => some span
  | .list _ span => some span
  | .table content => content.span
  | .tables _ span => span

end Node

namespace TableForm

/-- The table was made by a dotted key. -/
def isDotted : TableForm → Bool
  | dotted => true
  | inlineDotted => true
  | _ => false

/-- The table has neither header nor braces of its own. -/
def isImplicit : TableForm → Bool
  | implied => true
  | dotted => true
  | inlineDotted => true
  | _ => false

end TableForm

namespace TableOf

/-- A table without entries. -/
def empty (form : TableForm) (span : Option Span) : Table :=
  { form, entries := [], span }

/-- The node under a name. -/
def get? (table : Table) (name : String) : Option Node :=
  (table.entries.find? fun (key, _) => key.name == name).map (·.2)

/-- The table with another node under a name that it has. -/
def replace (table : Table) (name : String) (node : Node) : Table :=
  { table with entries := table.entries.map fun entry =>
      if entry.1.name = name then (entry.1, node) else entry }

/-- The table with a further entry. -/
def insert (table : Table) (key : Key) (node : Node) : Table :=
  { table with entries := table.entries ++ [(key, node)] }

/-- The table without the entry of a name. -/
def remove (table : Table) (name : String) : Table :=
  { table with entries := table.entries.filter fun (key, _) => key.name != name }

/-- A path to another table may lead into this one.  No path leads into a table
in braces, and dotted keys lead only into tables without header. -/
def takesPath (table : Table) (form : TableForm) : Bool :=
  table.form != .inline && (!form.isDotted || table.form.isImplicit)

/-- Changes the table at the end of a path, making the tables on the way that are
not there yet with the given form.  The way leads through the last table of an
array. -/
def change (form : TableForm) (edit : Table → Option Table) : List Key → Table → Option Table
  | [], table => edit table
  | key :: path, table =>
      match table.get? key.name with
      | none =>
          (change form edit path (empty form none)).map fun inner =>
            table.insert key (.table inner)
      | some (.table inner) =>
          if inner.takesPath form then
            (change form edit path inner).map fun inner => table.replace key.name (.table inner)
          else none
      | some (.tables items span) =>
          match items.reverse with
          | [] => none
          | last :: before =>
              (change form edit path last).map fun last =>
                table.replace key.name (.tables (last :: before).reverse span)
      | some _ => none

/-- Adds an entry under a dotted key whose tables get the given form.  A table
takes either plain keys or dotted ones, and a key only once. -/
def define (form : TableForm) (path : List Key) (key : Key) (node : Node) (table : Table) :
    Option Table :=
  change form (fun inner =>
      if inner.form.isDotted == path.isEmpty || (inner.get? key.name).isSome then none
      else some (inner.insert key node))
    path table

end TableOf

end EventDispatch.Document
