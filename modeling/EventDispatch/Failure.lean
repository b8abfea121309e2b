import EventDispatch.Diagnostic
import EventDispatch.Dispatch
import EventDispatch.FileStore
import EventDispatch.Log
import EventDispatch.Path

/-!
# Failures

What ends a round of the generator, and the outcome of an operation: the records
it made and its result.
-/

namespace EventDispatch

/-- Why an operation of the generator fails.  A text that is not in its format is
named by its origin, with the line or the reason where there is one. -/
inductive Failure where
  | source (origin : String) (line : Nat)
  | manifest (origin : String) (reason : Option String)
  | dispatch (error : DispatchError)
  | noOutputDirectory
  | unreadable (path : String) (fault : FileFault)
  | files (fault : FileFault)
  deriving DecidableEq

namespace Failure

/-- The diagnostic for a missing output directory. -/
def outputDiagnostic : Diagnostic := .error "Cannot find generated output dir."

/-- The failure in the words of a message, where it has words of its own. -/
def message? : Failure → Option String
  | source _ _ => none
  | manifest origin reason =>
      reason.map fun reason => s!"Failed to parse declaration manifest {origin}: " ++ reason
  | dispatch error => some error.describe
  | noOutputDirectory => some "Cannot find generated output dir"
  | unreadable path fault => some ("Failed to read " ++ Path.quote path ++ ": " ++ fault.describe)
  | files fault => some ("IO error: " ++ fault.describe)

end Failure

/-- The records of an operation and its result. -/
structure Outcome (α : Type) where
  records : List Log.Record
  result : Except Failure α

end EventDispatch
