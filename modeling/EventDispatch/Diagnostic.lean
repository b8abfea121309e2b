import EventDispatch.Log

/-!
# Diagnostics

Findings about the inputs that a run reports to its user.  Every diagnostic is
also a log record, and a build script prints it as one directive line.
-/

namespace EventDispatch

/-- How grave a diagnostic is. -/
inductive Severity where
  | warning
  | error
  deriving DecidableEq

/-- The severity in the words of a message. -/
def Severity.describe : Severity → String
  | warning => "warning"
  | error => "error"

/-- A finding: what it is about, where that stands, and what is to be said. -/
structure Diagnostic where
  severity : Severity
  subject : Option String
  location : Option String
  message : String
  deriving DecidableEq

namespace Diagnostic

/-- A warning about a subject. -/
def warning (subject : String) (location : Option String) (message : String) : Diagnostic :=
  { severity := .warning, subject := some subject, location, message }

/-- An error that concerns the whole run. -/
def error (message : String) : Diagnostic :=
  { severity := .error, subject := none, location := none, message }

/-- The diagnostic as text: location, severity, message. -/
def describe (diagnostic : Diagnostic) : String :=
  match diagnostic.location with
  | some location =>
      location ++ ": " ++ diagnostic.severity.describe ++ ": " ++ diagnostic.message
  | none => diagnostic.severity.describe ++ ": " ++ diagnostic.message

/-- The log record of a diagnostic. -/
def record (diagnostic : Diagnostic) : Log.Record :=
  match diagnostic.severity with
  | .warning => .warn diagnostic.describe
  | .error => .error diagnostic.describe

/-- The directive that reports a diagnostic to the build tool. -/
def cargoDirective (diagnostic : Diagnostic) : String :=
  let directive :=
    match diagnostic.severity with
    | .warning => "cargo:warning"
    | .error => "cargo::error"
  directive ++ "=event-codegen: " ++ diagnostic.describe

/-- The diagnostics of a severity. -/
def ofSeverity (severity : Severity) (diagnostics : List Diagnostic) : List Diagnostic :=
  diagnostics.filter (·.severity == severity)

/-- The diagnostics about a subject. -/
def aboutSubject (subject : String) (diagnostics : List Diagnostic) : List Diagnostic :=
  diagnostics.filter (·.subject == some subject)

/-- The number of warnings. -/
def warningCount (diagnostics : List Diagnostic) : Nat :=
  (ofSeverity .warning diagnostics).length

end Diagnostic

end EventDispatch
