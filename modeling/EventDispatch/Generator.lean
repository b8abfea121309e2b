import EventDispatch.Declaration.Table
import EventDispatch.Failure
import EventDispatch.Manifest
import EventDispatch.Settings
import EventDispatch.Source.Declarations

/-!
# Generators

A generator holds its settings, the declarations read so far, and the files they
were read from.  Reading a text either adds all of its declarations or leaves
the generator as it was.
-/

namespace EventDispatch

/-- The state of a generator. -/
structure Generator where
  settings : Settings
  table : Table
  inputs : List String

namespace Generator

/-- A generator that has read nothing. -/
def start (settings : Settings) : Generator where
  settings
  table := .empty
  inputs := []

/-- Counts of the declarations read so far. -/
def stats (generator : Generator) : TableStats :=
  generator.table.stats generator.settings.marker

/-- The generator with further declarations. -/
def extend (generator : Generator) (declarations : List Declaration) : Generator :=
  { generator with table := generator.table.extend declarations }

/-- The generator with one more input file. -/
def noteInput (generator : Generator) (path : String) : Generator :=
  { generator with inputs := generator.inputs ++ [path] }

/-! ## Texts -/

/-- The declarations of a source text in a module. -/
def readSource (source origin module : String) : Outcome (List Declaration) :=
  match Source.Item.ofSource source with
  | .error line => { records := [], result := .error (.source origin line) }
  | .ok items =>
      { records := Source.Item.records origin module items
        result := .ok (Source.Item.allDeclarations origin module items) }

/-- The declarations of a manifest. -/
def readManifest (source origin : String) : Outcome (List Declaration) where
  records := Manifest.records origin source
  result := (Manifest.declarations origin source).mapError fun fault =>
    .manifest origin (fault.reason? source)

/-- The generator with the declarations that were read. -/
def take (generator : Generator) (read : Outcome (List Declaration)) : Outcome Generator :=
  match read.result with
  | .error failure => { records := read.records, result := .error failure }
  | .ok declarations =>
      { records := read.records ++ generator.table.replacements declarations
        result := .ok (generator.extend declarations) }

/-- The generator with the declarations of a source text. -/
def addSource (generator : Generator) (source origin module : String) : Outcome Generator :=
  generator.take (readSource source origin module)

/-- The generator with the declarations of a manifest. -/
def addManifest (generator : Generator) (source origin : String) : Outcome Generator :=
  generator.take (readManifest source origin)

/-! ## Files -/

/-- Reads a file and adds what it declares.  The file becomes an input of the
generator when all of it is taken. -/
def addFile {m : Type → Type} [Monad m] [FileStore m] (opening done path : String)
    (add : String → Outcome Generator) : m (Outcome Generator) := do
  let first := Log.Record.info (opening ++ ": " ++ Path.quote path)
  match ← FileStore.read path with
  | .error fault => return { records := [first], result := .error (.unreadable path fault) }
  | .ok text =>
      let added := add text
      match added.result with
      | .error failure =>
          return { records := first :: added.records, result := .error failure }
      | .ok generator =>
          return {
            records := first :: added.records ++ [.info (done ++ ": " ++ Path.quote path)]
            result := .ok (generator.noteInput path) }

/-- The generator with the declarations of a source file.  They come from the path as it is
shown. -/
def addSourceFile {m : Type → Type} [Monad m] [FileStore m] (generator : Generator)
    (path module : String) : m (Outcome Generator) :=
  addFile "Parsing Rust source" "Rust source loaded successfully" path fun text =>
    generator.addSource text (Path.display path) module

/-- The generator with the declarations of a manifest file. -/
def addManifestFile {m : Type → Type} [Monad m] [FileStore m] (generator : Generator)
    (path : String) : m (Outcome Generator) :=
  addFile "Parsing declaration manifest" "Declaration manifest loaded successfully" path
    fun text => generator.addManifest text (Path.display path)

end Generator

end EventDispatch
