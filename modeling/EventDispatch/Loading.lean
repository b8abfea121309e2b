import EventDispatch.Generator

/-!
# Loading in place

Whoever loads inputs keeps one generator and calls it over and over.  A call works
on the generator where it stands: it adds declarations one by one and then notes
the input, and when it fails, whatever it has changed up to there stays changed.
The programs here are the four calls step by step, with the records they make and
the files they read.
-/

namespace EventDispatch

/-- What calls work on: the generator, the records made so far, and the place where
the files are kept. -/
structure Bench (σ : Type) where
  generator : Generator
  records : List Log.Record
  store : σ

/-- A program that works on the bench.  What it has changed stays when it fails. -/
abbrev InPlace (σ : Type) := ExceptT Failure (StateM (Bench σ))

namespace InPlace

variable {σ : Type}

/-- Makes a record. -/
def note (record : Log.Record) : InPlace σ Unit :=
  modify fun bench => { bench with records := bench.records ++ [record] }

/-- Reads a text from a file. -/
def readText [FileStore (StateM σ)] (path : String) : InPlace σ String := do
  let bench ← get
  let (result, store) := (FileStore.read path : StateM σ (Except FileFault String)).run bench.store
  set { bench with store }
  match result with
  | .error fault => throw (.unreadable path fault)
  | .ok text => return text

/-- Makes the records of what was read and goes on with the declarations. -/
def takeRead (read : Outcome (List Declaration)) : InPlace σ (List Declaration) := do
  forM read.records note
  match read.result with
  | .error failure => throw failure
  | .ok declarations => return declarations

/-- Adds one declaration to the table. -/
def addDeclaration (declaration : Declaration) : InPlace σ Unit := do
  let bench ← get
  forM (bench.generator.table.replacement? declaration).toList note
  modify fun bench =>
    { bench with
      generator := { bench.generator with table := bench.generator.table.add declaration } }

/-- Notes an input. -/
def addInput (path : String) : InPlace σ Unit :=
  modify fun bench => { bench with generator := bench.generator.noteInput path }

/-- Reads a file and adds what it declares, one declaration after the other. -/
def addFile [FileStore (StateM σ)] (opening done path : String)
    (read : String → Outcome (List Declaration)) : InPlace σ Unit := do
  note (.info (opening ++ ": " ++ Path.quote path))
  let text ← readText path
  let declarations ← takeRead (read text)
  forM declarations addDeclaration
  addInput path
  note (.info (done ++ ": " ++ Path.quote path))

end InPlace

/-- A call that loads an input. -/
inductive LoadCall where
  | source (text origin module : String)
  | sourceFile (path module : String)
  | manifest (text origin : String)
  | manifestFile (path : String)
  deriving DecidableEq

namespace LoadCall

open InPlace

/-- The file that a call reads. -/
def path? : LoadCall → Option String
  | source _ _ _ => none
  | sourceFile path _ => some path
  | manifest _ _ => none
  | manifestFile path => some path

variable {σ : Type} [FileStore (StateM σ)]

/-- The call on the bench. -/
def run : LoadCall → InPlace σ Unit
  | source text origin module => do
      forM (← takeRead (Generator.readSource text origin module)) addDeclaration
  | sourceFile path module =>
      addFile "Parsing Rust source" "Rust source loaded successfully" path fun text =>
        Generator.readSource text (Path.display path) module
  | manifest text origin => do
      forM (← takeRead (Generator.readManifest text origin)) addDeclaration
  | manifestFile path =>
      addFile "Parsing declaration manifest" "Declaration manifest loaded successfully" path
        fun text => Generator.readManifest text (Path.display path)

/-- Calls one behind the other, each with its answer.  A call that fails does not keep
those behind it from being made. -/
def runAll (calls : List LoadCall) : StateM (Bench σ) (List (Except Failure Unit)) :=
  calls.mapM fun call => call.run.run

end LoadCall

end EventDispatch
