import EventDispatch.Proofs.Phrases

/-!
# Reading expressions

The expressions of an implementation are operands: texts, paths, calls, tuples and arrays.
An operand is read as an atom with its trailers, of which only a call has one
(`reads_unary`), and is the whole expression where no operator follows (`Passes.expr`).
What may not follow is `EndsExpr`; the brace that opens a block counts only where the
literal of a struct could stand.
-/

namespace EventDispatch.Source

namespace Parser

variable {rules : Rules} {structs : Bool} {before middle after rest : List Tree}
  {shape value : ExprShape}

/-! ## What stands around an operand -/

/-- Nothing that goes on with an expression stands ahead. -/
structure EndsExpr (structs : Bool) (trees : List Tree) : Prop extends EndsPath trees where
  operator : binaryOperator? trees = none
  assign : Peek.op "=" trees = false
  range : Peek.op ".." trees = false
  cast : Peek.word "as" trees = false
  parens : Peek.group .paren trees = false
  brackets : Peek.group .bracket trees = false
  select : Peek.op "." trees = false
  question : Peek.op "?" trees = false
  call : Peek.op "!" trees = false
  hash : Peek.op "#" trees = false
  braces : (structs && Peek.group .brace trees) = false

/-- Where no operator follows, the operand is all of the expression. -/
theorem reads_operators (hends : EndsExpr structs rest) (left : ExprShape) (base : Precedence) :
    Reads (operatorsRule rules left structs base) rest left rest := by
  show Reads (ite _ _ _) _ _ _
  split
  · exact reads_pure _ _
  · refine .get fun close superfluous => ?_
    simp only [hends.operator, hends.assign, hends.range, hends.cast, Bool.false_and,
      Bool.and_false, Bool.false_eq_true, if_false]
    exact reads_pure _ _

section Levels

variable {level : Nat}

theorem reads_expr (hunary : Reads ((Rules.level (level + 1)).unary structs) before shape after)
    (hends : EndsExpr structs after) :
    Reads ((Rules.level (level + 2)).expr structs) before shape after := by
  refine Reads.bind hunary ?_
  exact reads_operators hends shape .jump

end Levels

/-! ## Atoms -/

section Operands

variable {level : Nat} {trail : Trail} {elements : List (Language Tree)}

theorem Passes.expr {forest : Language Tree}
    (hunary : Passes ((Rules.level (level + 1)).unary structs) forest (EndsExpr structs) value) :
    Passes ((Rules.level (level + 2)).expr structs) forest (EndsExpr structs) value := by
  intro trees htrees
  obtain ⟨hnonempty, hreads⟩ := hunary trees htrees
  exact ⟨hnonempty, fun rest hends => reads_expr (hreads rest hends) hends⟩

end Operands

end Parser

end EventDispatch.Source
