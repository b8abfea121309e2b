import EventDispatch.Dispatch.Printer
import EventDispatch.Log

/-!
# Artifacts

The file generated for an event set.
-/

namespace EventDispatch

/-- A generated file: the declaration it is for, its name, the number of events
it dispatches, and its text. -/
structure Artifact where
  declaration : String
  fileName : String
  arms : Nat
  source : String
  deriving DecidableEq

namespace EventSet

/-- The file generated for the event set. -/
def artifact (set : EventSet) (settings : Settings)
    (printer : ArgumentPrinter := plainArgument) : Except DispatchError Artifact := do
  let dispatch ← set.dispatch settings
  return {
    declaration := set.path
    fileName := Name.snakeCase set.name ++ ".rs"
    arms := set.variants.length
    source := dispatch.render settings printer }

/-- The record of a generated file. -/
def artifactRecord (set : EventSet) : Log.Record :=
  .debug s!"Emitted {set.variants.length} arm(s) for {set.path}"

end EventSet

end EventDispatch
