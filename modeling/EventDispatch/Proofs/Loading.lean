import EventDispatch.Loading
import EventDispatch.Proofs.Table

/-!
# A call that fails loads nothing

`LoadCall.run` changes the generator step by step, so that a failure in the middle
would show.  None does: all that can fail comes before the first declaration is
added.  `run_eq` says so for one call, which either fails and leaves the generator,
or adds what it read and notes its file.

A call reads the same whatever the generator holds (`LoadCall.read`), so a whole run
is told by what the calls read one behind the other: `generator_runAll` gives the
generator that a run ends with, by induction on the calls.
-/

namespace EventDispatch

/-! ## Programs in place -/

namespace InPlace

variable {σ : Type} (bench : Bench σ)

theorem run_note (record : Log.Record) :
    ((note record).run).run bench =
      (.ok (), { bench with records := bench.records ++ [record] }) :=
  rfl

theorem run_addInput (path : String) :
    ((addInput path).run).run bench =
      (.ok (), { bench with generator := bench.generator.noteInput path }) :=
  rfl

/-- Behind a program that succeeds, the rest runs on the bench it leaves. -/
theorem run_bind_of_ok {α β : Type} {program : InPlace σ α} {next : α → InPlace σ β} {value : α}
    {bench later : Bench σ} (hrun : (program.run).run bench = (.ok value, later)) :
    ((program >>= next).run).run bench = ((next value).run).run later := by
  change (ExceptT.bindCont next ((program.run).run bench).1).run ((program.run).run bench).2 = _
  rw [hrun]
  rfl

/-- A program that fails ends the whole, and leaves the bench as it is. -/
theorem run_bind_of_error {α β : Type} {program : InPlace σ α} {next : α → InPlace σ β}
    {failure : Failure} {bench later : Bench σ}
    (hrun : (program.run).run bench = (.error failure, later)) :
    ((program >>= next).run).run bench = (.error failure, later) := by
  change (ExceptT.bindCont next ((program.run).run bench).1).run ((program.run).run bench).2 = _
  rw [hrun]
  rfl

theorem run_forM_note (records : List Log.Record) (bench : Bench σ) :
    ((forM records note : InPlace σ Unit).run).run bench =
      (.ok (), { bench with records := bench.records ++ records }) := by
  induction records generalizing bench with
  | nil =>
      rw [List.append_nil]
      rfl
  | cons record rest ih =>
      rw [List.forM_cons, run_bind_of_ok (run_note bench record), ih]
      simp

theorem run_addDeclaration (declaration : Declaration) :
    ((addDeclaration declaration).run).run bench =
      (.ok (), { bench with
        generator := bench.generator.extend [declaration]
        records := bench.records ++ bench.generator.table.replacements [declaration] }) := by
  unfold addDeclaration
  have hget : ((get : InPlace σ (Bench σ)).run).run bench = (.ok bench, bench) := rfl
  rw [run_bind_of_ok hget, run_bind_of_ok (run_forM_note _ bench)]
  simp [Table.replacements]
  rfl

/-- Adding declarations one by one never fails. -/
theorem run_forM_addDeclaration (declarations : List Declaration) (bench : Bench σ) :
    ((forM declarations addDeclaration : InPlace σ Unit).run).run bench =
      (.ok (), { bench with
        generator := bench.generator.extend declarations
        records := bench.records ++ bench.generator.table.replacements declarations }) := by
  induction declarations generalizing bench with
  | nil =>
      rw [Table.replacements, List.append_nil]
      rfl
  | cons declaration rest ih =>
      rw [List.forM_cons, run_bind_of_ok (run_addDeclaration bench declaration), ih]
      simp [Generator.extend, Table.replacements, Table.extend]

theorem run_takeRead (read : Outcome (List Declaration)) :
    ((takeRead read).run).run bench =
      (read.result, { bench with records := bench.records ++ read.records }) := by
  unfold takeRead
  rw [run_bind_of_ok (run_forM_note read.records bench)]
  cases read.result with
  | error failure => rfl
  | ok declarations => rfl

theorem run_readText [FileStore (StateM σ)] (path : String) :
    ((readText path).run).run bench =
      ((((FileStore.read path : StateM σ _).run bench.store).1).mapError (.unreadable path),
        { bench with store := ((FileStore.read path : StateM σ _).run bench.store).2 }) := by
  unfold readText
  have hget : ((get : InPlace σ (Bench σ)).run).run bench = (.ok bench, bench) := rfl
  rw [run_bind_of_ok hget]
  cases hread : (FileStore.read path : StateM σ (Except FileFault String)).run bench.store with
  | mk result store =>
      cases result with
      | error fault => rfl
      | ok text => rfl

/-- A text is taken as a whole: either its reading fails, or all of it is added. -/
theorem run_takeRead_add (read : Outcome (List Declaration)) :
    ((takeRead read >>= fun declarations => forM declarations addDeclaration).run).run bench =
      ((bench.generator.take read).result.map fun _ => (), { bench with
        generator := (bench.generator.take read).result.toOption.getD bench.generator
        records := bench.records ++ (bench.generator.take read).records }) := by
  have htake := run_takeRead bench read
  unfold Generator.take
  cases hresult : read.result with
  | error failure =>
      rw [hresult] at htake
      rw [run_bind_of_error htake]
      rfl
  | ok declarations =>
      rw [hresult] at htake
      rw [run_bind_of_ok htake, run_forM_addDeclaration]
      simp [Except.map, Except.toOption]

/-- Reading a file fails with the store, or goes on with the text. -/
theorem run_addFile_eq [FileStore (StateM σ)] (opening done path : String)
    (add : String → Outcome Generator) (state : σ) :
    (Generator.addFile opening done path add : StateM σ (Outcome Generator)).run state =
      let first := Log.Record.info (opening ++ ": " ++ Path.quote path)
      let (result, store) := (FileStore.read path : StateM σ (Except FileFault String)).run state
      match result with
      | .error fault =>
          ({ records := [first], result := .error (.unreadable path fault) }, store)
      | .ok text =>
          match (add text).result with
          | .error failure =>
              ({ records := first :: (add text).records, result := .error failure }, store)
          | .ok generator =>
              ({ records := first :: (add text).records ++ [.info (done ++ ": " ++ Path.quote path)]
                 result := .ok (generator.noteInput path) }, store) := by
  unfold Generator.addFile
  rw [StateT.run_bind]
  cases (FileStore.read path : StateM σ (Except FileFault String)).run state with
  | mk result store =>
      cases result with
      | error fault => rfl
      | ok text =>
          change (match (add text).result with
            | .error failure => _
            | .ok generator => _ : StateM σ (Outcome Generator)).run store = _
          cases hresult : (add text).result with
          | error failure => simp only [hresult]; rfl
          | ok generator => simp only [hresult]; rfl

/-- A file is taken as a whole as well. -/
theorem run_addFile [FileStore (StateM σ)] {opening done path : String}
    {read : String → Outcome (List Declaration)} {add : String → Outcome Generator}
    (hadd : ∀ text, add text = bench.generator.take (read text)) :
    ((addFile opening done path read).run).run bench =
      let (outcome, store) :=
        (Generator.addFile opening done path add : StateM σ (Outcome Generator)).run bench.store
      (outcome.result.map fun _ => (), {
        generator := outcome.result.toOption.getD bench.generator
        records := bench.records ++ outcome.records
        store }) := by
  have hread := run_readText { bench with
    records := bench.records ++ [.info (opening ++ ": " ++ Path.quote path)] } path
  rw [run_addFile_eq, InPlace.addFile, run_bind_of_ok (run_note bench _)]
  cases hstore : (FileStore.read path : StateM σ (Except FileFault String)).run bench.store with
  | mk result store =>
      simp only [hstore] at hread
      cases result with
      | error fault =>
          rw [run_bind_of_error hread]
          rfl
      | ok text =>
          rw [run_bind_of_ok hread]
          have htake := run_takeRead { bench with
            records := bench.records ++ [.info (opening ++ ": " ++ Path.quote path)]
            store } (read text)
          simp only [hadd, Generator.take]
          cases hresult : (read text).result with
          | error failure =>
              rw [hresult] at htake
              rw [run_bind_of_error htake]
              simp [Except.map, Except.toOption]
          | ok declarations =>
              rw [hresult] at htake
              rw [run_bind_of_ok htake, run_bind_of_ok (run_forM_addDeclaration declarations _),
                run_bind_of_ok (run_addInput _ path), run_note]
              simp [Except.map, Except.toOption]

end InPlace

/-! ## One call -/

namespace LoadCall

variable {σ : Type} [FileStore (StateM σ)]

/-- The call as an operation that returns a new generator. -/
def outcome (generator : Generator) : LoadCall → StateM σ (Outcome Generator)
  | source text origin module => return generator.addSource text origin module
  | sourceFile path module => generator.addSourceFile path module
  | manifest text origin => return generator.addManifest text origin
  | manifestFile path => generator.addManifestFile path

/-- What is read from the text of a file. -/
def readFile (path : String) (read : String → Outcome (List Declaration)) :
    StateM σ (Except Failure (List Declaration)) := do
  match ← FileStore.read path with
  | .error fault => return .error (.unreadable path fault)
  | .ok text => return (read text).result

/-- The declarations of the text that a call is about, or why there are none.  No
generator takes part in it. -/
def read : LoadCall → StateM σ (Except Failure (List Declaration))
  | source text origin module => return (Generator.readSource text origin module).result
  | sourceFile path module => readFile path fun text =>
      Generator.readSource text (Path.display path) module
  | manifest text origin => return (Generator.readManifest text origin).result
  | manifestFile path => readFile path fun text => Generator.readManifest text (Path.display path)

/-- The generator with all that a call has read. -/
def loaded (generator : Generator) (call : LoadCall) (declarations : List Declaration) :
    Generator where
  settings := generator.settings
  table := generator.table.extend declarations
  inputs := generator.inputs ++ call.path?.toList

/-- Step by step in place, a call does what it does as an operation: its answer, the
records and the store are the same, and a new generator takes the place of the old
one when there is one. -/
theorem run_eq_outcome (call : LoadCall) (bench : Bench σ) :
    (call.run.run).run bench =
      let done := (call.outcome bench.generator).run bench.store
      (done.1.result.map fun _ => (), {
        generator := done.1.result.toOption.getD bench.generator
        records := bench.records ++ done.1.records
        store := done.2 }) := by
  cases call with
  | source text origin module => exact InPlace.run_takeRead_add bench _
  | sourceFile path module => exact InPlace.run_addFile bench fun _ => rfl
  | manifest text origin => exact InPlace.run_takeRead_add bench _
  | manifestFile path => exact InPlace.run_addFile bench fun _ => rfl

theorem result_take (generator : Generator) (read : Outcome (List Declaration)) :
    (generator.take read).result = read.result.map generator.extend := by
  unfold Generator.take
  cases hresult : read.result with
  | error failure => rfl
  | ok declarations => rfl

theorem run_addFile_eq_readFile {generator : Generator} {opening done path : String}
    {read : String → Outcome (List Declaration)} {add : String → Outcome Generator}
    (hadd : ∀ text, add text = generator.take (read text)) (state : σ) :
    ((Generator.addFile opening done path add : StateM σ (Outcome Generator)).run state).2 =
        ((readFile path read).run state).2 ∧
      ((Generator.addFile opening done path add : StateM σ (Outcome Generator)).run
          state).1.result =
        ((readFile path read).run state).1.map fun declarations =>
          (generator.extend declarations).noteInput path := by
  rw [InPlace.run_addFile_eq, readFile, StateT.run_bind]
  cases (FileStore.read path : StateM σ (Except FileFault String)).run state with
  | mk result store =>
      cases result with
      | error fault => exact ⟨rfl, rfl⟩
      | ok text =>
          have htake := result_take generator (read text)
          rw [← hadd] at htake
          change (match (add text).result with
            | .error failure => _
            | .ok generator => _ : Outcome Generator × σ).2 = _ ∧ _ = (read text).result.map _
          cases hresult : (read text).result with
          | error failure =>
              rw [hresult] at htake
              simp only [htake]
              exact ⟨rfl, rfl⟩
          | ok declarations =>
              rw [hresult] at htake
              simp only [htake]
              exact ⟨rfl, rfl⟩

/-- The operation fails where the reading fails, and otherwise loads what was read. -/
theorem outcome_eq_read (generator : Generator) (call : LoadCall) (state : σ) :
    ((call.outcome generator).run state).2 = (call.read.run state).2 ∧
      ((call.outcome generator).run state).1.result =
        (call.read.run state).1.map (call.loaded generator) := by
  cases call with
  | source text origin module =>
      have hloaded : (source text origin module).loaded generator = generator.extend := by
        funext declarations
        simp [loaded, path?, Generator.extend]
      rw [hloaded]
      exact ⟨rfl, result_take generator (Generator.readSource text origin module)⟩
  | sourceFile path module => exact run_addFile_eq_readFile (fun _ => rfl) state
  | manifest text origin =>
      have hloaded : (manifest text origin).loaded generator = generator.extend := by
        funext declarations
        simp [loaded, path?, Generator.extend]
      rw [hloaded]
      exact ⟨rfl, result_take generator (Generator.readManifest text origin)⟩
  | manifestFile path => exact run_addFile_eq_readFile (fun _ => rfl) state

/-- A call in place fails where its reading fails, and leaves the generator; otherwise
it loads what was read. -/
theorem run_eq (call : LoadCall) (bench : Bench σ) :
    ∃ records, (call.run.run).run bench =
      ((call.read.run bench.store).1.map fun _ => (), {
        generator := ((call.read.run bench.store).1.map
          (call.loaded bench.generator)).toOption.getD bench.generator
        records
        store := (call.read.run bench.store).2 }) := by
  obtain ⟨hstore, hresult⟩ := outcome_eq_read bench.generator call bench.store
  refine ⟨bench.records ++ ((call.outcome bench.generator).run bench.store).1.records, ?_⟩
  simp only [run_eq_outcome, ← hstore, hresult]
  cases (call.read.run bench.store).1 with
  | error failure => rfl
  | ok declarations => rfl

/-! ## Runs -/

/-- The input that a call leaves behind with its answer. -/
def input? : LoadCall × Except Failure Unit → Option String
  | (call, .ok ()) => call.path?
  | (_, .error _) => none

theorem run_runAll_cons (call : LoadCall) (rest : List LoadCall) (bench : Bench σ) :
    (runAll (call :: rest)).run bench =
      (((call.run.run).run bench).1 :: ((runAll rest).run ((call.run.run).run bench).2).1,
        ((runAll rest).run ((call.run.run).run bench).2).2) := by
  rw [runAll, List.mapM_cons]
  rfl

theorem run_mapM_read_cons (call : LoadCall) (rest : List LoadCall) (state : σ) :
    ((call :: rest).mapM read).run state =
      ((call.read.run state).1 :: ((rest.mapM read).run (call.read.run state).2).1,
        ((rest.mapM read).run (call.read.run state).2).2) := by
  rw [List.mapM_cons]
  rfl

/-- What a run ends with is told by what its calls read one behind the other. -/
theorem run_runAll (calls : List LoadCall) (bench : Bench σ) :
    ((runAll calls).run bench).1 =
        ((calls.mapM read).run bench.store).1.map (Except.map fun _ => ()) ∧
      ((runAll calls).run bench).2.generator = {
        settings := bench.generator.settings
        table := bench.generator.table.extend
          (((calls.mapM read).run bench.store).1.filterMap Except.toOption).flatten
        inputs := bench.generator.inputs ++
          (calls.zip ((runAll calls).run bench).1).filterMap input? } := by
  induction calls generalizing bench with
  | nil => exact ⟨rfl, by rw [List.zip_nil_left, List.filterMap_nil, List.append_nil]; rfl⟩
  | cons call rest ih =>
      obtain ⟨records, hrun⟩ := run_eq call bench
      -- What a call reads depends on the store alone, so both runs go on from the same store.
      rw [run_runAll_cons, run_mapM_read_cons, hrun]
      obtain ⟨hanswers, hgenerator⟩ := ih {
        generator := ((call.read.run bench.store).1.map
          (call.loaded bench.generator)).toOption.getD bench.generator
        records
        store := (call.read.run bench.store).2 }
      refine ⟨?_, ?_⟩
      · rw [List.map_cons, hanswers]
      · rw [hgenerator]
        cases (call.read.run bench.store).1 with
        | error failure => simp [List.filterMap_cons, Except.map, Except.toOption, input?]
        | ok declarations =>
            cases hpath : call.path? with
            | none =>
                simp [hpath, Except.map, Except.toOption, input?, loaded, Table.extend_append]
            | some path =>
                simp [hpath, Except.map, Except.toOption, input?, loaded, Table.extend_append]

theorem length_runAll (calls : List LoadCall) (bench : Bench σ) :
    ((runAll calls).run bench).1.length = calls.length := by
  induction calls generalizing bench with
  | nil => rfl
  | cons call rest ih => rw [run_runAll_cons, List.length_cons, List.length_cons, ih]

/-- A call that fails in a run leaves the generator as the calls before it did. -/
theorem generator_of_error {calls : List LoadCall} {bench : Bench σ} {index : Nat}
    {failure : Failure}
    (hanswer : ((runAll calls).run bench).1[index]? = some (.error failure)) :
    ((runAll (calls.take (index + 1))).run bench).2.generator =
      ((runAll (calls.take index)).run bench).2.generator := by
  induction calls generalizing bench index with
  | nil => rw [List.take_nil, List.take_nil]
  | cons call rest ih =>
      rw [run_runAll_cons] at hanswer
      cases index with
      | zero =>
          obtain ⟨records, hrun⟩ := run_eq call bench
          rw [List.getElem?_cons_zero, Option.some_inj, hrun] at hanswer
          rw [List.take_succ_cons, List.take_zero, List.take_zero, run_runAll_cons, hrun]
          cases hread : (call.read.run bench.store).1 with
          | error failure => rfl
          | ok declarations =>
              rw [hread] at hanswer
              cases hanswer
      | succ index =>
          rw [List.take_succ_cons, List.take_succ_cons, run_runAll_cons, run_runAll_cons]
          rw [List.getElem?_cons_succ] at hanswer
          exact ih hanswer

/-- Loading is all or nothing over whole runs.  After any calls, of which any may fail,
the table is the one before with the declarations of the calls that succeeded, in call
order; the inputs are those before and the files of the calls that succeeded, in call
order; the settings are those before; and each call that failed left the generator as
it was. -/
theorem runAll_loads (calls : List LoadCall) (bench : Bench σ) :
    let reads := ((calls.mapM read).run bench.store).1
    let answers := ((runAll calls).run bench).1
    let after := fun count => ((runAll (calls.take count)).run bench).2.generator
    answers = reads.map (Except.map fun _ => ()) ∧ answers.length = calls.length ∧
      (after calls.length).table =
        bench.generator.table.extend (reads.filterMap Except.toOption).flatten ∧
      (after calls.length).inputs =
        bench.generator.inputs ++ (calls.zip answers).filterMap input? ∧
      (after calls.length).settings = bench.generator.settings ∧
      ∀ (index : Nat) (failure : Failure), answers[index]? = some (.error failure) →
        after (index + 1) = after index := by
  intro reads answers after
  obtain ⟨hanswers, hgenerator⟩ := run_runAll calls bench
  have hafter : after calls.length = ((runAll calls).run bench).2.generator := by
    simp only [after, List.take_length]
  rw [hafter, hgenerator]
  exact ⟨hanswers, length_runAll calls bench, rfl, rfl, rfl,
    fun _ _ hanswer => generator_of_error hanswer⟩

end LoadCall

end EventDispatch
