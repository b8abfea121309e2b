import EventDispatch.Document
import EventDispatch.Number.Notation
import EventDispatch.Text.Escape
import EventDispatch.Text.Split

/-!
# The shape of a document

A `Reading` turns a node into a value or finds fault with it.  A `Record`
collects readings for the fields of a structure, which a document writes as a
table or, field by field in their order, as a list.  A fault carries its cause
and the place of the innermost node around it that has one.
-/

namespace EventDispatch.Document

/-! ## Faults -/

/-- What a node is, as far as it decides whether the node is taken. -/
inductive Found where
  | text (value : String)
  | whole (value : Int)
  | floating (value : Number.Floating)
  | truth (value : Bool)
  | sequence
  | map
  deriving DecidableEq

/-- Why a node is not taken. -/
inductive Cause where
  | missing (field : String)
  | mismatch (found : Found) (expected : String)
  | outOfRange (value : Int) (expected : String)
  | unknownName (name : String) (options : List String)
  | tooShort (length : Nat) (record : String) (fields : Nat)
  | noEntry
  | manyEntries
  | notName
  | notEmpty (expected : String)
  | notTable (found : String)
  deriving DecidableEq

/-- A cause with its place. -/
structure Fault where
  cause : Cause
  span : Option Span
  deriving DecidableEq

/-- Floating-point numbers in messages: never with an exponent, always with a point. -/
def messageStyle : Number.Style where
  plain := fun _ => true
  showsPoint := true
  tie := .up
  nan := "NaN"
  infinity := "inf"
  minusInfinity := "-inf"

/-- What was found, in the words of a message. -/
def Found.describe : Found → String
  | text value => "string " ++ Text.Escape.quote value
  | whole value => s!"integer `{value}`"
  | floating value => "floating point `" ++ messageStyle.write value ++ "`"
  | truth value => s!"boolean `{value}`"
  | sequence => "sequence"
  | map => "map"

/-- Names between backquotes, in the words of a message. -/
def describeOptions (options : List String) : String :=
  let quoted := options.map fun option => "`" ++ option ++ "`"
  match quoted with
  | [first, second] => first ++ " or " ++ second
  | [only] => only
  | _ => "one of " ++ ", ".intercalate quoted

/-- The cause in the words of a message. -/
def Cause.describe : Cause → String
  | missing field => "missing field `" ++ field ++ "`"
  | mismatch found expected => "invalid type: " ++ found.describe ++ ", expected " ++ expected
  | outOfRange value expected => s!"invalid value: integer `{value}`, expected " ++ expected
  | unknownName name options =>
      "unknown variant `" ++ name ++ "`, expected " ++ describeOptions options
  | tooShort length record fields =>
      s!"invalid length {length}, expected struct {record} with {fields} elements"
  | noEntry => "wanted exactly 1 element, found 0 elements"
  | manyEntries => "wanted exactly 1 element, more than 1 element"
  | notName => "wanted string or table"
  | notEmpty expected => "expected empty " ++ expected
  | notTable found => "expected table, found " ++ found

/-! ## Places of faults -/

/-- The characters before a byte offset. -/
def before (offset : Nat) : List Char → List Char
  | [] => []
  | c :: rest => if offset = 0 then [] else c :: before (offset - c.utf8Size) rest

/-- Several copies of a character. -/
def copies (c : Char) (count : Nat) : String :=
  String.ofList (List.replicate count c)

/-- The message of a fault in a text: the line and column of its place, the line
itself with marks below the place, and the cause. -/
def Fault.message (source : String) (fault : Fault) : String :=
  match fault.span with
  | none => fault.cause.describe ++ "\n"
  | some span =>
      let passed := Text.split '\n' (before span.start source.toList)
      let column := (passed.getLast?.getD []).length
      let content := ((Text.split '\n' source.toList)[passed.length - 1]?).getD []
      let label := toString passed.length
      let gutter := copies ' ' (label.length + 1)
      let room := (String.ofList content).utf8ByteSize - column
      let marks := max 1 (min (span.stop - span.start) room)
      s!"TOML parse error at line {passed.length}, column {column + 1}\n" ++
        gutter ++ "|\n" ++
        label ++ " | " ++ String.ofList content ++ "\n" ++
        gutter ++ "|" ++ copies ' ' (column + 1) ++ copies '^' marks ++ "\n" ++
        fault.cause.describe ++ "\n"

/-! ## Readings -/

/-- A reading of a node. -/
abbrev Reading (α : Type) := Node → Except Fault α

/-- A result whose fault gets a place if it has none. -/
def located {α : Type} (span : Option Span) : Except Fault α → Except Fault α
  | .ok value => .ok value
  | .error fault => .error { fault with span := fault.span <|> span }

/-- A fault without a place of its own. -/
def refuse {α : Type} (cause : Cause) : Except Fault α :=
  .error { cause, span := none }

/-- What a node is. -/
def Node.found : Node → Found
  | .scalar (.text value) _ => .text value
  | .scalar (.whole value) _ => .whole value
  | .scalar (.floating value) _ => .floating value
  | .scalar (.truth value) _ => .truth value
  | .scalar .moment _ => .map
  | .list _ _ => .sequence
  | .table _ => .map
  | .tables _ _ => .sequence

namespace Reading

/-- A text. -/
def text : Reading String
  | .scalar (.text value) _ => .ok value
  | node => refuse (.mismatch node.found "a string")

/-- A truth value. -/
def truth : Reading Bool
  | .scalar (.truth value) _ => .ok value
  | node => refuse (.mismatch node.found "a boolean")

/-- A number of things. -/
def count : Reading Nat
  | .scalar (.whole value) _ =>
      if 0 ≤ value then .ok value.toNat else refuse (.outOfRange value "usize")
  | node => refuse (.mismatch node.found "usize")

/-- The elements of a list or of an array of tables. -/
def elements? : Node → Option (List Node)
  | .list items _ => some items
  | .tables items _ => some (items.map .table)
  | _ => none

/-- A list of values. -/
def list {α : Type} (item : Reading α) : Reading (List α) := fun node =>
  match elements? node with
  | some nodes => nodes.mapM fun node => located node.span? (item node)
  | none => refuse (.mismatch node.found "a sequence")

/-- The kind of a value in messages. -/
def scalarName : Scalar → String
  | .text _ => "string"
  | .whole _ => "integer"
  | .floating _ => "float"
  | .truth _ => "boolean"
  | .moment => "datetime"

/-- Nothing may be said about a name: an empty table or list. -/
def nothing : Reading Unit
  | .table content =>
      if content.entries.isEmpty then .ok ()
      else .error { cause := .notEmpty "table", span := content.span }
  | .list items span =>
      if items.isEmpty then .ok () else .error { cause := .notEmpty "table", span := span }
  | .tables items span =>
      if items.isEmpty then .ok () else .error { cause := .notEmpty "array", span := span }
  | .scalar value span => .error { cause := .notTable (scalarName value), span }

/-- The value with a name. -/
def byName {α : Type} (options : List (String × α)) (name : String) (span : Option Span) :
    Except Fault α :=
  match options.lookup name with
  | some value => .ok value
  | none => .error { cause := .unknownName name (options.map (·.1)), span }

/-- One of several named values, as a text or as a table whose only key is the
name and has nothing to say. -/
def oneOf {α : Type} (options : List (String × α)) : Reading α
  | .scalar (.text name) _ => byName options name none
  | .table content =>
      match content.entries with
      | [] => .error { cause := .noEntry, span := content.span }
      | [(key, node)] => do
          let value ← byName options key.name (some key.span)
          nothing node
          return value
      | _ => .error { cause := .manyEntries, span := content.span }
  | node => .error { cause := .notName, span := node.span? }

end Reading

/-! ## Records -/

/-- The fields of a record that a node gives. -/
structure Given where
  node? : String → Option Node
  /-- The node is a list, in which no field may be left out for nothing. -/
  inOrder : Bool
  /-- The cause when a field is not there. -/
  absent : String → Cause

/-- The fields of a structure: the names with the demands on their values, and
how the structure is made of them. -/
structure Record (α : Type) where
  fields : List (String × Reading Unit)
  make : Given → Except Fault α

namespace Record

/-- A record of no fields. -/
protected def pure {α : Type} (value : α) : Record α where
  fields := []
  make _ := .ok value

/-- The fields of two records together. -/
protected def seq {α β : Type} (first : Record (α → β)) (second : Unit → Record α) :
    Record β where
  fields := first.fields ++ (second ()).fields
  make given := do
    let apply ← first.make given
    let value ← (second ()).make given
    return apply value

instance : Applicative Record where
  pure := Record.pure
  seq := Record.seq

/-- A reading whose value does not matter. -/
def demand {α : Type} (reading : Reading α) : Reading Unit := fun node => do
  let _ ← reading node
  return ()

/-- The reading of a given node, at its place. -/
def take {α : Type} (reading : Reading α) (node : Node) : Except Fault α :=
  located node.span? (reading node)

/-- A field that must be there. -/
def required {α : Type} (name : String) (reading : Reading α) : Record α where
  fields := [(name, demand reading)]
  make given :=
    match given.node? name with
    | some node => take reading node
    | none => refuse (given.absent name)

/-- A field that may be left out of a table. -/
def optional {α : Type} (name : String) (reading : Reading α) : Record (Option α) where
  fields := [(name, demand reading)]
  make given :=
    match given.node? name with
    | some node => (take reading node).map some
    | none => if given.inOrder then refuse (given.absent name) else .ok none

/-- A field with a value for its absence. -/
def orElse {α : Type} (name : String) (reading : Reading α) (default : α) : Record α where
  fields := [(name, demand reading)]
  make given :=
    match given.node? name with
    | some node => take reading node
    | none => .ok default

/-- The structure that a table writes.  Its entries are looked at in their order,
those under other names not at all; then every field must be there. -/
def ofTable {α : Type} (record : Record α) (table : Table) : Except Fault α := do
  for (key, node) in table.entries do
    match record.fields.lookup key.name with
    | some demand => located (node.span? <|> some key.span) (demand node)
    | none => pure ()
  record.make { node? := table.get?, inOrder := false, absent := .missing }

/-- The structure that a list writes. -/
def ofList {α : Type} (record : Record α) (name : String) (nodes : List Node) :
    Except Fault α :=
  let names := record.fields.map (·.1)
  record.make {
    node? := fun field => (names.zip nodes).lookup field
    inOrder := true
    absent := fun field => .tooShort (names.idxOf field) name names.length }

/-- A structure. -/
def reading {α : Type} (record : Record α) (name : String) : Reading α
  | .table content => record.ofTable content
  | .list items _ => record.ofList name items
  | .tables items _ => record.ofList name (items.map .table)
  | node => refuse (.mismatch node.found ("struct " ++ name))

end Record

end EventDispatch.Document
