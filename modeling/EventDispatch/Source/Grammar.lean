import EventDispatch.Declaration
import EventDispatch.Source.Cursor

/-!
# Shapes and recursive rules

The grammar of items, types, patterns and expressions is recursive.  Each rule
is written over a record `Rules` of the recursive ones, and `Source.File` ties
the knot.  Of what a rule reads it answers only a shape: as much as the rules
around it need to decide how to go on.
-/

namespace EventDispatch.Source

/-- The arguments behind a path segment. -/
inductive Arguments where
  | absent
  | angle (empty : Bool)
  | paren
  deriving DecidableEq

/-- The shape of a path. -/
structure PathShape where
  /-- The path starts with a double colon. -/
  rooted : Bool
  segments : List String
  /-- The arguments of the last segment. -/
  arguments : Arguments
  /-- No segment has arguments. -/
  plain : Bool
  /-- The last token of the path closes a brace. -/
  endsInBrace : Bool := false
  deriving DecidableEq

/-- What a type is, as far as its surroundings ask. -/
inductive TypeForm where
  | path (shape : PathShape)
  /-- A list of bounds without `dyn`; `single` says that it is one bound. -/
  | bounds (single : Bool)
  | parenthesized
  | other
  deriving DecidableEq

/-- The shape of a type. -/
structure TypeShape where
  form : TypeForm
  endsInBrace : Bool := false
  deriving DecidableEq

/-- The shape of a bound. -/
inductive BoundShape where
  | lifetime
  | capture
  | trait (endsInBrace : Bool)
  deriving DecidableEq

/-- What a pattern is, as far as its surroundings ask. -/
inductive PatternShape where
  | rest
  /-- A range with one end; its dots stand on the line. -/
  | openRange (line : Nat)
  | other
  deriving DecidableEq

/-- What an expression is, as far as its surroundings ask. -/
inductive ExprForm where
  /-- It may stand as a statement or an arm without a separator behind it. -/
  | block
  | bracedCall
  | range
  | comparison
  | other
  deriving DecidableEq

/-- The shape of an expression. -/
structure ExprShape where
  form : ExprForm
  /-- The last token of the expression closes a brace. -/
  endsInBrace : Bool := false
  deriving DecidableEq

/-- Binding strength of operators, the weakest first. -/
inductive Precedence where
  | jump
  | assign
  | range
  | or
  | and
  | binding
  | compare
  | bitOr
  | bitXor
  | bitAnd
  | shift
  | sum
  | product
  | cast
  deriving DecidableEq

/-- Position in the order of binding strength. -/
def Precedence.rank : Precedence → Nat
  | jump => 0
  | assign => 1
  | range => 2
  | or => 3
  | and => 4
  | binding => 5
  | compare => 6
  | bitOr => 7
  | bitXor => 8
  | bitAnd => 9
  | shift => 10
  | sum => 11
  | product => 12
  | cast => 13

/-- The path of an attribute. -/
structure AttributePath where
  rooted : Bool
  segments : List String
  deriving DecidableEq

/-- A variant of an enumeration, as written. -/
structure VariantItem where
  name : String
  line : Nat
  fields : Fields
  deriving DecidableEq

/-- A type item: an item that declares a type or a trait. -/
structure TypeItem where
  kind : Kind
  name : String
  line : Nat
  attributes : List AttributePath
  generic : Bool
  variants : List VariantItem := []
  deriving DecidableEq

/-- An item of a module.  Only what declares or contains types is kept. -/
inductive Item where
  | type (item : TypeItem)
  | inlineModule (name : String) (items : List Item)
  | outlineModule (name : String)
  | other

/-- The recursive rules. -/
structure Rules where
  /-- An expression; a struct literal may start only where `structs` allows it. -/
  expr : (structs : Bool) → Parser ExprShape
  /-- An expression up to the first binary operator. -/
  unary : (structs : Bool) → Parser ExprShape
  /-- The binary operators of at least a strength that follow an operand. -/
  operators : (left : ExprShape) → (structs : Bool) → Precedence → Parser ExprShape
  /-- An expression that ends early if it is like a block. -/
  statementExpr : Parser ExprShape
  /-- A type; further bounds may follow where `plus` allows it. -/
  type : (plus : Bool) → Parser TypeShape
  /-- A bound; `capture` and `constant` say whether a list of captured parameters
  and a constant trait may stand there. -/
  bound : (capture constant : Bool) → Parser BoundShape
  /-- A pattern without alternatives at its top. -/
  pattern : Parser PatternShape
  /-- The statements of a block. -/
  statements : Parser Unit
  /-- An item. -/
  item : Parser Item
  /-- Named fields in braces. -/
  fields : Parser Unit
  /-- A tree of imports; `roots` says that a double colon may start a branch. -/
  imports : (roots : Bool) → Parser Unit

end EventDispatch.Source
