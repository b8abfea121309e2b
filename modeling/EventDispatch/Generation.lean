import EventDispatch.Preparation

/-!
# Generation

A round of the generator: it finds the output directory, prepares the artifacts,
and writes them one by one.  Nothing is written before everything is prepared,
and no directory is made when there is nothing to write.
-/

namespace EventDispatch

/-- A written artifact. -/
structure Summary where
  declaration : String
  path : String
  arms : Nat
  deriving DecidableEq

/-- What a round wrote and found. -/
structure Report where
  artifacts : List Summary
  diagnostics : List Diagnostic
  deriving DecidableEq

/-- The number of warnings of a round. -/
def Report.warningCount (report : Report) : Nat :=
  Diagnostic.warningCount report.diagnostics

/-- The summary of an artifact in a directory. -/
def Artifact.summary (directory : String) (artifact : Artifact) : Summary where
  declaration := artifact.declaration
  path := Path.join directory artifact.fileName
  arms := artifact.arms

/-- The record of a written artifact. -/
def Summary.record (summary : Summary) : Log.Record :=
  .info (s!"Generated {summary.declaration} ({summary.arms} arm(s)) -> " ++
    Path.quote summary.path)

/-- The directory to write into: the one that is asked for, or else the one that
the environment names, unless that name is empty. -/
def outputDirectory? (explicit environment : Option String) : Option String :=
  explicit <|> environment.filter fun directory => directory != ""

section Writing

variable {m : Type → Type} [Monad m] [FileStore m]

/-- Makes the directory for artifacts, if there are any. -/
def makeReady (directory : String) (artifacts : List Artifact) : m (Except FileFault Unit) :=
  if artifacts.isEmpty then return .ok () else FileStore.makeDirectories directory

/-- Writes artifacts in order up to the first one that cannot be written; the
summaries of those written, and the fault if there was one. -/
def writeArtifacts (directory : String) :
    List Artifact → m (List Summary × Except FileFault Unit)
  | [] => return ([], .ok ())
  | artifact :: rest => do
      let summary := artifact.summary directory
      match ← FileStore.write summary.path artifact.source with
      | .error fault => return ([], .error fault)
      | .ok () =>
          let (summaries, result) ← writeArtifacts directory rest
          return (summary :: summaries, result)

/-- Writes what was prepared. -/
def writePreparation (directory : String) (preparation : Preparation) : m (Outcome Report) := do
  match ← makeReady directory preparation.artifacts with
  | .error fault => return { records := [], result := .error (.files fault) }
  | .ok () =>
      let (summaries, result) ← writeArtifacts directory preparation.artifacts
      let records := summaries.map Summary.record
      match result with
      | .error fault => return { records, result := .error (.files fault) }
      | .ok () =>
          return {
            records
            result := .ok { artifacts := summaries, diagnostics := preparation.diagnostics } }

/-- A round of the generator. -/
def Generator.generate (generator : Generator) (explicit environment : Option String) :
    m (Outcome Report) := do
  match outputDirectory? explicit environment with
  | none =>
      return { records := [Failure.outputDiagnostic.record], result := .error .noOutputDirectory }
  | some directory =>
      let prepared := generator.prepare
      match prepared.result with
      | .error failure => return { records := prepared.records, result := .error failure }
      | .ok preparation =>
          let written ← writePreparation directory preparation
          return { written with records := prepared.records ++ written.records }

end Writing

/-! ## Build scripts -/

/-- The directives that name the inputs of a generator. -/
def Generator.inputDirectives (generator : Generator) : List String :=
  generator.inputs.map fun path => "cargo:rerun-if-changed=" ++ path

/-- The directives that a round adds to those that name the inputs. -/
def resultDirectives : Except Failure Report → List String
  | .ok report => report.diagnostics.map Diagnostic.cargoDirective
  | .error .noOutputDirectory => [Failure.outputDiagnostic.cargoDirective]
  | .error _ => []

/-- A round of the generator as a build script runs it, and what the script prints. -/
def Generator.generateForBuild {m : Type → Type} [Monad m] [FileStore m] (generator : Generator)
    (environment : Option String) : m (Outcome Report × List String) := do
  let outcome ← generator.generate none environment
  return (outcome, generator.inputDirectives ++ resultDirectives outcome.result)

end EventDispatch
