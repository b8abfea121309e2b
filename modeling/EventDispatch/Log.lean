/-!
# Log records

What a run reports about its own progress.  Records are values: an operation
that reports something returns its records beside its result, in order.
-/

namespace EventDispatch.Log

/-- The weight of a record, the gravest first. -/
inductive Level where
  | error
  | warn
  | info
  | debug
  | trace
  deriving DecidableEq

namespace Level

/-- The label of a level in a log line. -/
def label : Level → String
  | error => "ERROR"
  | warn => "WARN"
  | info => "INFO"
  | debug => "DEBUG"
  | trace => "TRACE"

/-- Position in the order of weight; a verbosity admits every level up to its own. -/
def rank : Level → Nat
  | error => 0
  | warn => 1
  | info => 2
  | debug => 3
  | trace => 4

end Level

/-- One record.  The tracker writes to a channel of its own. -/
structure Record where
  level : Level
  channel : Option String := none
  message : String
  deriving DecidableEq

namespace Record

def error (message : String) : Record := { level := .error, message }
def warn (message : String) : Record := { level := .warn, message }
def info (message : String) : Record := { level := .info, message }
def debug (message : String) : Record := { level := .debug, message }
def trace (message : String) : Record := { level := .trace, message }

/-- The record as one line of text. -/
def line (record : Record) : String :=
  match record.channel with
  | none => record.level.label ++ " " ++ record.message
  | some channel => record.level.label ++ " [" ++ channel ++ "] " ++ record.message

end Record

end EventDispatch.Log
