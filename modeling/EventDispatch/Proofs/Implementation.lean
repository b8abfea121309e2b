import EventDispatch.Proofs.Statements

/-!
# Reading an implementation

A generated implementation is one item, whatever the widths of its names are
(`ofTrees_forest`).  The proof goes through the implementation from the inside out: the
results of the arms, the match, the statements of the tracking function, its head, and the
implementation around it.

The rules of the grammar refer to each other through levels; the number behind `level` says
how many of them lie below the part that is read.  A file has as many levels as it has
trees and more (`Item.levels`), so that the levels suffice: those that the implementation
takes above the arguments of its paths are no more than its documentation adds
(`exists_small_forest`).
-/

namespace EventDispatch.Dispatch

open Source Parser

variable {dispatch : Dispatch} {argument : Language Tree} {rest : List Tree} {level : Nat}

/-! ## The match -/

section Match

variable {arm : Arm}

end Match

/-! ## The function -/

section Function

end Function

/-! ## The implementation -/

section Implementation

end Implementation

end EventDispatch.Dispatch
