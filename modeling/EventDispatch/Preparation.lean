import EventDispatch.Artifact
import EventDispatch.Generator
import EventDispatch.Selection

/-!
# Preparation

What a round would write: an artifact for every accepted declaration with an
event set, in table order, under names of which no two are the same, and the
diagnostics about everything that was left out.
-/

namespace EventDispatch

/-- The artifacts of a round and its diagnostics. -/
structure Preparation where
  artifacts : List Artifact
  diagnostics : List Diagnostic
  deriving DecidableEq

/-! ## File names -/

/-- A number of 32 bits that is not the largest one can be counted up. -/
theorem toInt_succ_of_lt {number : Int32} (hnumber : number < Int32.maxValue) :
    (number + 1).toInt = number.toInt + 1 := by
  have hlow := Int32.le_toInt number
  have hmax : Int32.maxValue.toInt = 2147483647 := by decide
  rw [Int32.lt_iff_toInt_lt] at hnumber
  rw [Int32.toInt_add, Int32.toInt_one, Int.bmod_eq_of_le]
  · omega
  · omega

/-- The names to try for a path one after the other: its stem, then the stem with
the numbers from two on. -/
def candidateName (path : String) (index : Nat) : String :=
  if index = 0 then Name.qualifiedStem path ++ ".rs"
  else s!"{Name.qualifiedStem path}_{index + 1}.rs"

/-- The search for a name that is not taken, from one name on and with the number of
the next one.  The number has 32 bits, and the search breaks off where the largest one
would be counted up. -/
def searchName? (taken : List String) (path name : String) (number : Int32) : Option String :=
  if taken.contains name then
    if number < Int32.maxValue then
      searchName? taken path s!"{Name.qualifiedStem path}_{number}.rs" (number + 1)
    else none
  else some name
termination_by (Int32.maxValue.toInt - number.toInt).toNat
decreasing_by
  rename_i hnumber
  have hnext := toInt_succ_of_lt hnumber
  rw [Int32.lt_iff_toInt_lt] at hnumber
  omega

/-- How many names the search can look at. -/
def searchReach : Nat := 2147483646

/-- The first candidate that is not taken, with numbers of any size.  One more candidate
than there are taken names is enough. -/
def freeCandidate (taken : List String) (path : String) : String :=
  (((List.range (taken.length + 1)).map (candidateName path)).find? fun name =>
    !taken.contains name).getD (candidateName path taken.length)

/-- The name that the search ends with.  A search that breaks off, for which there must be
as many taken names as it can look at, has none; the candidate behind them stands for it. -/
def freeName (taken : List String) (path : String) : String :=
  (searchName? taken path (candidateName path 0) 2).getD (freeCandidate taken path)

/-- The artifact under a name that is not taken. -/
def Artifact.settle (taken : List String) (artifact : Artifact) : Artifact :=
  if taken.contains artifact.fileName then
    { artifact with fileName := freeName taken artifact.declaration }
  else artifact

/-- The record of a name that was taken. -/
def Artifact.settleRecords (taken : List String) (artifact : Artifact) : List Log.Record :=
  if taken.contains artifact.fileName then
    [.debug (s!"File name taken, writing {artifact.declaration} to " ++
      freeName taken artifact.declaration)]
  else []

/-! ## Artifacts of declarations -/

/-- The artifacts of declarations, in order, up to the first one for which no code
can be generated. -/
def prepareArtifacts (settings : Settings) (taken : List String) :
    List Declaration → Except DispatchError (List Artifact)
  | [] => .ok []
  | declaration :: rest =>
      match declaration.eventSet? with
      | none => prepareArtifacts settings taken rest
      | some set => do
          let artifact := (← set.artifact settings).settle taken
          let others ← prepareArtifacts settings (artifact.fileName :: taken) rest
          return artifact :: others

/-- The records made meanwhile. -/
def prepareRecords (settings : Settings) (taken : List String) :
    List Declaration → List Log.Record
  | [] => []
  | declaration :: rest =>
      declaration.eventSetRecords ++
        (match declaration.eventSet? with
        | none => prepareRecords settings taken rest
        | some set =>
            match set.artifact settings with
            | .error _ => []
            | .ok artifact =>
                set.artifactRecord :: artifact.settleRecords taken ++
                  prepareRecords settings ((artifact.settle taken).fileName :: taken) rest)

/-- The diagnostics of a table: about rejected declarations first, then about the
members of accepted ones. -/
def Table.diagnostics (table : Table) (marker : String) : List Diagnostic :=
  table.selectionWarnings marker ++
    (table.accepted marker).flatMap Declaration.eventSetWarnings

/-- What a round of the generator would write. -/
def Generator.prepare (generator : Generator) : Outcome Preparation :=
  let marker := generator.settings.marker
  let accepted := generator.table.accepted marker
  { records :=
      generator.table.selectionRecords marker ++ prepareRecords generator.settings [] accepted
    result :=
      match prepareArtifacts generator.settings [] accepted with
      | .error error => .error (.dispatch error)
      | .ok artifacts => .ok { artifacts, diagnostics := generator.table.diagnostics marker } }

end EventDispatch
