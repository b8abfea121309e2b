import EventDispatch.CommandLine.Configuration
import EventDispatch.CommandLine.Options
import EventDispatch.Report

/-!
# Runs of the generator

A run is read off the command line, merges the options with the configuration
file, loads all inputs, and writes the artifacts or only shows them.  What it
prints is a list of outputs in order.
-/

namespace EventDispatch.CommandLine

/-! ## Options -/

/-- The options of a run. -/
structure RunOptions where
  sources : List SourceInput
  manifests : List String
  outputDirectory : Option String
  configuration : Option String
  marker : Option String
  dryRun : Bool
  json : Bool
  verbosity : Nat
  quiet : Bool
  deriving DecidableEq

/-- A path as a value is not empty. -/
def isPath (value : String) : Bool :=
  value != ""

/-- A source argument as a value, which is text. -/
def isSourceArgument (value : String) : Bool :=
  Path.isText value && (SourceInput.ofArgument value).toOption.isSome

/-- The options that the program knows. -/
def runRules : List OptionRule := [
  { long := "source", short := some 's', kind := .value isSourceArgument, repeats := true },
  { long := "manifest", short := some 'm', kind := .value isPath, repeats := true },
  { long := "out-dir", short := some 'o', kind := .value isPath },
  { long := "config", short := some 'c', kind := .value isPath },
  { long := "marker", kind := .value Path.isText },
  { long := "dry-run" },
  { long := "json" },
  { long := "verbose", short := some 'v', repeats := true },
  { long := "quiet", short := some 'q' },
  versionRule,
  helpRule]

/-- The options of a run on a command line. -/
def RunOptions.ofWords (words : List String) : Except Stop RunOptions := do
  let found ← readOnlyOptions runRules words
  return {
    sources := (valuesOf found "source").filterMap fun value =>
      (SourceInput.ofArgument value).toOption
    manifests := valuesOf found "manifest"
    outputDirectory := (valuesOf found "out-dir").head?
    configuration := (valuesOf found "config").head?
    marker := (valuesOf found "marker").head?
    dryRun := isGiven found "dry-run"
    json := isGiven found "json"
    verbosity := countOf found "verbose"
    quiet := isGiven found "quiet" }

/-- The gravest level that is not shown is the one behind this one. -/
def RunOptions.level (options : RunOptions) : Log.Level :=
  if options.quiet then .error
  else
    match options.verbosity with
    | 0 => .info
    | 1 => .debug
    | _ => .trace

/-! ## Outputs -/

/-- Something that a run prints: text, a message to the side, or a log record. -/
inductive Output where
  | text (content : String)
  | message (content : String)
  | record (record : Log.Record)
  deriving DecidableEq

/-- What a run prints and its exit code. -/
structure Transcript where
  outputs : List Output
  exitCode : Nat
  deriving DecidableEq

namespace Transcript

/-- A run that printed something and succeeded. -/
def succeed (outputs : List Output) : Transcript :=
  { outputs, exitCode := 0 }

/-- A run that ended with an error. -/
def fail (message : String) : Transcript :=
  { outputs := [.message ("Error: " ++ message ++ "\n")], exitCode := 1 }

/-- A run that goes on behind some outputs. -/
def after (outputs : List Output) (transcript : Transcript) : Transcript :=
  { transcript with outputs := outputs ++ transcript.outputs }

/-- A run that goes on behind some records. -/
def afterRecords (records : List Log.Record) (transcript : Transcript) : Transcript :=
  transcript.after (records.map .record)

/-- The transcript with the records up to a level only. -/
def upTo (level : Log.Level) (transcript : Transcript) : Transcript :=
  { transcript with
    outputs := transcript.outputs.filter fun output =>
      match output with
      | .record record => record.level.rank ≤ level.rank
      | _ => true }

end Transcript

/-- The name and version of the program. -/
def versionText : String := "event-codegen 0.1.0\n"

/-- What is shown when nothing is given to generate from. -/
def quickStart : String :=
  "Event Codegen - No input specified\n" ++
  "\nQuick Start:\n" ++
  "  event-codegen --source src/event.rs=crate::event --out-dir generated\n" ++
  "  event-codegen --manifest events.toml --dry-run\n" ++
  "\nWith a configuration file:\n" ++
  "  event-codegen --config codegen.toml\n" ++
  "\nUse --help for more options\n"

/-- How the program is called. -/
def usage : String :=
  "Usage: event-codegen [OPTIONS]\n" ++
  "\nOptions:\n" ++
  "  -s, --source <FILE[=MODULE]>\n" ++
  "  -m, --manifest <FILE>\n" ++
  "  -o, --out-dir <DIR>\n" ++
  "  -c, --config <FILE>\n" ++
  "      --marker <NAME>\n" ++
  "      --dry-run\n" ++
  "      --json\n" ++
  "  -v, --verbose...\n" ++
  "  -q, --quiet\n" ++
  "  -h, --help\n" ++
  "  -V, --version\n"

/-! ## Inputs -/

/-- A configuration with what the options add: further inputs, and another output
directory and marker if they are given. -/
def RunOptions.merge (options : RunOptions) (configuration : Configuration) : Configuration :=
  { configuration with
    sources := configuration.sources ++ options.sources
    manifests := configuration.manifests ++ options.manifests
    outputDirectory := options.outputDirectory <|> configuration.outputDirectory
    settings :=
      { configuration.settings with
        marker := options.marker.getD configuration.settings.marker } }

/-- An input that could not be loaded. -/
inductive LoadFault where
  | source (path : String)
  | manifest (path : String)
  deriving DecidableEq

/-- The fault in the words of a message. -/
def LoadFault.describe : LoadFault → String
  | source path => "Failed to load Rust source " ++ Path.quote path
  | manifest path => "Failed to load manifest " ++ Path.quote path

section Running

variable {m : Type → Type} [Monad m] [FileStore m]

/-- Loads inputs one after the other up to the first one that fails. -/
def loadAll {α : Type} (load : Generator → α → m (Outcome Generator)) (fault : α → LoadFault) :
    Generator → List α → m (List Log.Record × Except LoadFault Generator)
  | generator, [] => return ([], .ok generator)
  | generator, input :: rest => do
      let outcome ← load generator input
      match outcome.result with
      | .error _ => return (outcome.records, .error (fault input))
      | .ok generator =>
          let (records, result) ← loadAll load fault generator rest
          return (outcome.records ++ records, result)

/-- The generator with all inputs of a configuration, the sources first. -/
def loadInputs (configuration : Configuration) :
    m (List Log.Record × Except LoadFault Generator) := do
  let (records, result) ← loadAll
    (fun (generator : Generator) (source : SourceInput) =>
      generator.addSourceFile source.path source.module)
    (fun source => .source source.path) (.start configuration.settings) configuration.sources
  match result with
  | .error fault => return (records, .error fault)
  | .ok generator =>
      let (further, result) ← loadAll Generator.addManifestFile LoadFault.manifest generator
        configuration.manifests
      return (records ++ further, result)

/-! ## The run -/

/-- The record of what was loaded. -/
def loadedRecord (generator : Generator) : Log.Record :=
  let stats := generator.stats
  .info (s!"Loaded {stats.declarations} declarations " ++
    s!"({stats.marked} marked, {stats.members} members)")

/-- What a dry run shows of an artifact. -/
def preview (artifact : Artifact) : String :=
  s!"// ---- {artifact.fileName} ({artifact.declaration}) ----\n" ++ artifact.source

/-- A run that shows the artifacts and writes nothing. -/
def dryRun (generator : Generator) : Transcript :=
  let prepared := generator.prepare
  match prepared.result with
  | .error failure =>
      (Transcript.fail (failure.message?.getD "")).afterRecords prepared.records
  | .ok preparation =>
      (Transcript.succeed
        (preparation.artifacts.map (fun artifact => .text (preview artifact)) ++
          preparation.diagnostics.map fun diagnostic =>
            .message (diagnostic.describe ++ "\n"))).afterRecords prepared.records

/-- What a run shows of its report, if it can show it. -/
def RunOptions.show? (options : RunOptions) (report : Report) : Option (List Output) :=
  if options.json then report.jsonText?.map fun content => [.text content]
  else if options.quiet then some []
  else some [.text report.text]

/-- A run that shows its report. -/
def RunOptions.conclude (options : RunOptions) (report : Report) : Transcript :=
  match options.show? report with
  | some outputs => .succeed outputs
  | none => .fail "path contains invalid UTF-8 characters"

/-- A run that writes the artifacts. -/
def writingRun (options : RunOptions) (configuration : Configuration)
    (environment : Option String) (generator : Generator) : m Transcript := do
  let outcome ← generator.generate configuration.outputDirectory environment
  let transcript : Transcript := match outcome.result with
    | .error _ => .fail "Code generation failed (use --out-dir or set OUT_DIR)"
    | .ok report => options.conclude report
  return transcript.afterRecords outcome.records

/-- The run of a merged configuration. -/
def runConfiguration (options : RunOptions) (environment : Option String)
    (configuration : Configuration) : m Transcript := do
  if configuration.hasNoInputs then return .succeed [.text quickStart]
  else
    let (records, result) ← loadInputs configuration
    match result with
    | .error fault => return (Transcript.fail fault.describe).afterRecords records
    | .ok generator =>
        let transcript ←
          if options.dryRun then pure (dryRun generator)
          else writingRun options configuration environment generator
        return transcript.afterRecords (records ++ [loadedRecord generator])

/-- The records at the start of a run. -/
def openingRecords : List Log.Record :=
  [.info "Event Codegen CLI v0.1.0", .debug "Using generator library v0.1.0"]

/-- The run with all of its records. -/
def runFully (options : RunOptions) (environment : Option String) : m Transcript := do
  let transcript ← match options.configuration with
    | none => runConfiguration options environment (options.merge {})
    | some path => do
        let opening := [Log.Record.info ("Loading configuration from: " ++ Path.quote path)]
        match ← loadConfiguration path with
        | .error fault => pure ((Transcript.fail fault.describe).afterRecords opening)
        | .ok configuration =>
            let transcript ←
              runConfiguration options environment (options.merge configuration)
            pure (transcript.afterRecords opening)
  return transcript.afterRecords openingRecords

/-- What the program prints for a command line, and its exit code.  A command line
that it does not take ends it with the code two. -/
def run (words : List String) (environment : Option String) : m Transcript :=
  match RunOptions.ofWords words with
  | .error .refused => return { outputs := [.message usage], exitCode := 2 }
  | .error .version => return .succeed [.text versionText]
  | .error .help => return .succeed [.text usage]
  | .ok options => do
      let transcript ← runFully options environment
      return transcript.upTo options.level

end Running

end EventDispatch.CommandLine
