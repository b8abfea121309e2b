import EventDispatch.Generation
import EventDispatch.Text.Json

/-!
# Reports

How the outcome of a round is shown: as text for a terminal, or as JSON, which can hold
only paths that are text.
-/

namespace EventDispatch

/-! ## Text -/

/-- The line of a written artifact. -/
def Summary.line (summary : Summary) : String :=
  let plural := if summary.arms = 1 then "" else "s"
  s!"  {summary.declaration} ({summary.arms} arm{plural}) -> {Path.display summary.path}\n"

/-- The lines about written artifacts. -/
def Report.artifactText (report : Report) : String :=
  if report.artifacts.isEmpty then "No event sets generated.\n"
  else "Generated:\n" ++ String.join (report.artifacts.map Summary.line)

/-- The lines about warnings. -/
def Report.warningText (report : Report) : String :=
  let warnings := Diagnostic.ofSeverity .warning report.diagnostics
  if warnings.isEmpty then ""
  else
    s!"\nWarnings ({warnings.length}):\n" ++
      String.join (warnings.map fun warning => "  " ++ warning.describe ++ "\n")

/-- The report as text. -/
def Report.text (report : Report) : String :=
  report.artifactText ++ report.warningText

/-! ## JSON -/

/-- The JSON of a written artifact. -/
def Summary.json (summary : Summary) : Text.Json.Value :=
  .object [("declaration", .string summary.declaration), ("path", .string summary.path),
    ("arms", .whole summary.arms)]

/-- The JSON of a diagnostic. -/
def Diagnostic.json (diagnostic : Diagnostic) : Text.Json.Value :=
  .object [("severity", .string diagnostic.severity.describe),
    ("subject", Text.Json.ofText? diagnostic.subject),
    ("location", Text.Json.ofText? diagnostic.location),
    ("message", .string diagnostic.message)]

/-- The report as JSON. -/
def Report.json (report : Report) : Text.Json.Value :=
  .object [("artifacts", .list (report.artifacts.map Summary.json)),
    ("diagnostics", .list (report.diagnostics.map Diagnostic.json))]

/-- The paths of the written artifacts are text. -/
def Report.isText (report : Report) : Bool :=
  report.artifacts.all fun summary => Path.isText summary.path

/-- The text of the report as JSON, which has no form for a path that is not text. -/
def Report.jsonText? (report : Report) : Option String :=
  if report.isText then some (Text.Json.pretty report.json ++ "\n") else none

end EventDispatch
