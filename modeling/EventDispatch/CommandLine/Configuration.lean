import EventDispatch.FileStore
import EventDispatch.Path
import EventDispatch.Settings.Reading

/-!
# Configurations

A configuration names the inputs of a run, the directory to write into and the
settings of the generator.  It is a document of its own, in which relative paths
start from the directory that the document lies in.
-/

namespace EventDispatch.CommandLine

/-- A source file and the module it is read as. -/
structure SourceInput where
  path : String
  module : String
  deriving DecidableEq

/-- A configuration. -/
structure Configuration where
  sources : List SourceInput := []
  manifests : List String := []
  outputDirectory : Option String := none
  settings : Settings := .standard
  deriving DecidableEq

/-- The module of a source file for which nothing is said. -/
def topModule : String := "crate"

/-! ## Source arguments -/

/-- What a source argument lacks. -/
inductive ArgumentFault where
  | missingFile (argument : String)
  | missingModule (argument : String)
  deriving DecidableEq

/-- The fault in the words of a message. -/
def ArgumentFault.describe : ArgumentFault → String
  | missingFile argument =>
      "missing file in source argument " ++ Text.Escape.quote argument
  | missingModule argument =>
      "missing module path in source argument " ++ Text.Escape.quote argument

/-- The source input of an argument: a file, and a module behind the first equals
sign. -/
def SourceInput.ofArgument (argument : String) : Except ArgumentFault SourceInput :=
  let text := argument.toList
  let path := String.ofList (text.takeWhile (· != '='))
  let module := match text.dropWhile (· != '=') with
    | [] => topModule
    | _ :: rest => String.ofList rest
  if path = "" then .error (.missingFile argument)
  else if module = "" then .error (.missingModule argument)
  else .ok { path, module }

/-! ## Documents -/

open Document Document.Record

/-- The fields of a source file. -/
def sourceRecord : Record SourceInput :=
  SourceInput.mk <$> required "path" Reading.text
    <*> orElse "module" Reading.text topModule

/-- The fields that name inputs: sources and manifests. -/
def inputRecord : Record (List SourceInput × List String) :=
  Prod.mk <$> orElse "sources" (Reading.list (sourceRecord.reading "source")) []
    <*> orElse "manifests" (Reading.list Reading.text) []

/-- The field that names the output directory. -/
def outputRecord : Record (Option String) :=
  optional "dir" Reading.text

/-- The configuration of inputs, output directory and settings. -/
def Configuration.ofParts (inputs : List SourceInput × List String) (output : Option String)
    (settings : Settings) : Configuration where
  sources := inputs.1
  manifests := inputs.2
  outputDirectory := output
  settings

/-- The fields of a configuration. -/
def configurationRecord : Record Configuration :=
  Configuration.ofParts <$> orElse "input" (inputRecord.reading "input") ([], [])
    <*> orElse "output" (outputRecord.reading "output") none
    <*> orElse "generator" (Settings.record.reading "generator") .standard

namespace Configuration

/-- The configuration that a text holds, if it holds one. -/
def ofText? (source : String) : Option Configuration :=
  (Document.ofText source).bind fun document =>
    (configurationRecord.ofTable document).toOption

/-- There is nothing to generate from. -/
def hasNoInputs (configuration : Configuration) : Bool :=
  configuration.sources.isEmpty && configuration.manifests.isEmpty

/-- The configuration with its paths as seen from a directory. -/
def resolve (base : String) (configuration : Configuration) : Configuration :=
  { configuration with
    sources := configuration.sources.map fun source =>
      { source with path := Path.join base source.path }
    manifests := configuration.manifests.map (Path.join base)
    outputDirectory := configuration.outputDirectory.map (Path.join base) }

/-- The configuration of a text in the file at a path. -/
def ofFile? (path source : String) : Option Configuration :=
  (ofText? source).map fun configuration =>
    match Path.parent? path with
    | some base => configuration.resolve base
    | none => configuration

end Configuration

/-- Why a configuration file is not taken. -/
inductive ConfigurationFault where
  | unreadable (path : String)
  | malformed (path : String)
  deriving DecidableEq

/-- The fault in the words of a message. -/
def ConfigurationFault.describe : ConfigurationFault → String
  | unreadable path => "Failed to read config file: " ++ Path.quote path
  | malformed path => "Failed to parse config file: " ++ Path.quote path

/-- The configuration in the file at a path. -/
def loadConfiguration {m : Type → Type} [Monad m] [FileStore m] (path : String) :
    m (Except ConfigurationFault Configuration) := do
  match ← FileStore.read path with
  | .error _ => return .error (.unreadable path)
  | .ok source =>
      match Configuration.ofFile? path source with
      | none => return .error (.malformed path)
      | some configuration => return .ok configuration

end EventDispatch.CommandLine
