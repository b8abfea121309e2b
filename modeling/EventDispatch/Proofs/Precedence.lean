import EventDispatch.Proofs.DryRun
import EventDispatch.Proofs.FileTree
import EventDispatch.Proofs.Loading
import EventDispatch.Proofs.Order

/-!
# Which definition of a path counts

A run takes its inputs from a configuration file and from the options, and loads them in
one order: the sources before the manifests, and of each kind those of the file before
those of the options (`RunOptions.inputs`).  A relative path in the file starts from the
directory of the file (`seenFrom`, and `lexical_seenFrom` for where it leads in a file tree);
every other path is taken as it stands.

What the table holds then depends on the declarations alone that are read in this order.
Of each path the last one stands, in the place of the first (`standing`).  So loading is
told by what the calls read one behind the other (`LoadsTo`), which goes together call by
call (`LoadsTo.append`), and a run whose calls all read something goes on with a generator
that holds what was read (`run_takes_last`).
-/

namespace EventDispatch

/-! ## What stands -/

/-- What is left of declarations when all of them are added: of each path the last one, in
the place of the first. -/
def standing (added : List Declaration) : List Declaration :=
  (added.map Declaration.path).eraseDups.filterMap (lastAdded? added)

theorem lastAdded?_append (front back : List Declaration) (path : String) :
    lastAdded? (front ++ back) path = (lastAdded? back path).or (lastAdded? front path) := by
  rw [lastAdded?, List.reverse_append, List.find?_append]
  rfl

theorem toList_extend (added : List Declaration) :
    (Table.empty.extend added).toList = standing added := by
  have hnodup : (Table.empty.extend added).paths.Nodup := by
    rw [Table.paths_extend]
    exact nodup_eraseDups _
  have hlast : ∀ declaration ∈ (Table.empty.extend added).toList,
      lastAdded? added declaration.path = some declaration := fun declaration hmem => by
    rw [← Table.get?_extend, Table.get?_path_of_mem hnodup hmem]
  calc (Table.empty.extend added).toList
      = (Table.empty.extend added).toList.filterMap some := (List.filterMap_some).symm
    _ = (Table.empty.extend added).toList.filterMap fun declaration =>
          lastAdded? added declaration.path := (List.filterMap_congr hlast).symm
    _ = (Table.empty.extend added).paths.filterMap (lastAdded? added) := by
        rw [Table.paths, List.filterMap_map]
        rfl
    _ = standing added := by rw [Table.paths_extend, standing]

/-- The generator holds the declarations of its inputs, which are given input by input. -/
structure Generator.Holds (generator : Generator) (loaded : List (List Declaration)) : Prop where
  table : generator.table = Table.empty.extend loaded.flatten
  toList : generator.table.toList = standing loaded.flatten
  /-- The last input that defines a path has the definition that counts. -/
  last : ∀ front input back path, loaded = front ++ input :: back →
    path ∈ input.map Declaration.path → path ∉ back.flatten.map Declaration.path →
      ∃ declaration, lastAdded? input path = some declaration ∧
        generator.table.get? path = some declaration
  /-- Up to their names, the artifacts are what is emitted for the definitions that count,
  and they come in the order in which the paths were defined first. -/
  artifacts : ∀ preparation, generator.prepare.result = .ok preparation →
    preparation.artifacts.map Artifact.content =
        (emissions generator.settings
          ((standing loaded.flatten).filter fun declaration =>
            declaration.verdict generator.settings.marker == .accepted)).map Artifact.content ∧
      (preparation.artifacts.map Artifact.declaration).Sublist
        (loaded.flatten.map Declaration.path).eraseDups

theorem holds_of_table {generator : Generator} {loaded : List (List Declaration)}
    (htable : generator.table = Table.empty.extend loaded.flatten) : generator.Holds loaded where
  table := htable
  toList := by rw [htable, toList_extend]
  last := by
    rintro front input back path rfl hinput hback
    obtain ⟨declaration, hlast⟩ : ∃ declaration, lastAdded? input path = some declaration := by
      rw [← Option.ne_none_iff_exists', ne_eq, Table.lastAdded?_eq_none_iff, not_not]
      exact hinput
    refine ⟨declaration, hlast, ?_⟩
    -- Looking from the end, the first declaration with the path is in this input.
    rw [htable, Table.get?_extend, List.flatten_append, List.flatten_cons, lastAdded?_append,
      lastAdded?_append, Table.lastAdded?_eq_none_iff.mpr hback, hlast, Option.none_or,
      Option.some_or]
  artifacts := by
    intro preparation hprepare
    have hprepared := prepareArtifacts_of_prepare hprepare
    refine ⟨?_, ?_⟩
    · rw [map_content_of_prepareArtifacts hprepared, Table.accepted, htable, toList_extend]
    · rw [(takes_of_prepareArtifacts hprepared).1, ← Table.paths_extend, ← htable]
      exact (List.filter_sublist.trans List.filter_sublist).map _

/-! ## Loading in order -/

/-- The calls that load the inputs of a configuration, the sources first. -/
def CommandLine.Configuration.calls (configuration : CommandLine.Configuration) : List LoadCall :=
  (configuration.sources.map fun source => .sourceFile source.path source.module) ++
    configuration.manifests.map .manifestFile

section Loading

variable {σ : Type} [FileStore (StateM σ)] {generator middle : Generator}
  {front back : List LoadCall} {state ready later : σ}
  {fault : CommandLine.LoadFault} {result : Except CommandLine.LoadFault Generator}

open CommandLine

/-- What loading comes to, told by what the calls read one behind the other: a generator
with all of their declarations, or a fault if one of them reads none. -/
def LoadsTo (generator : Generator) (calls : List LoadCall) (state : σ)
    (result : Except LoadFault Generator) (later : σ) : Prop :=
  match result with
  | .ok final => ∃ loaded : List (List Declaration),
      (calls.mapM LoadCall.read).run state = (loaded.map .ok, later) ∧
        final.table = generator.table.extend loaded.flatten
  | .error _ => ∃ failure, .error failure ∈ ((calls.mapM LoadCall.read).run state).1

theorem run_mapM_read_append (front back : List LoadCall) (state : σ) :
    ((front ++ back).mapM LoadCall.read).run state =
      let first := (front.mapM LoadCall.read).run state
      let second := (back.mapM LoadCall.read).run first.2
      (first.1 ++ second.1, second.2) := by
  rw [List.mapM_append]
  rfl

theorem LoadsTo.append (hfront : LoadsTo generator front state (.ok middle) ready)
    (hback : LoadsTo middle back ready result later) :
    LoadsTo generator (front ++ back) state result later := by
  obtain ⟨loaded, hreads, htable⟩ := hfront
  unfold LoadsTo
  rw [run_mapM_read_append, hreads]
  cases result with
  | ok final =>
      obtain ⟨more, hmore, hfinal⟩ := hback
      refine ⟨loaded ++ more, ?_, ?_⟩
      · simp only [hmore, List.map_append]
      · rw [hfinal, htable, List.flatten_append, Table.extend_append]
  | error fault =>
      obtain ⟨failure, hfailure⟩ := hback
      exact ⟨failure, List.mem_append_right _ hfailure⟩

/-- Loading stops at the first fault, so what comes behind does not matter. -/
theorem LoadsTo.stop (hfront : LoadsTo generator front state (.error fault) ready)
    (back : List LoadCall) : LoadsTo generator (front ++ back) state (.error fault) later := by
  obtain ⟨failure, hfailure⟩ := hfront
  unfold LoadsTo
  rw [run_mapM_read_append]
  exact ⟨failure, List.mem_append_left _ hfailure⟩

/-- One call. -/
theorem loadsTo_of_outcome (fault : LoadFault) {call : LoadCall} {outcome : Outcome Generator}
    (hrun : (call.outcome generator).run state = (outcome, later)) :
    LoadsTo generator [call] state (outcome.result.mapError fun _ => fault) later := by
  obtain ⟨hlater, hresult⟩ := call.outcome_eq_read generator state
  rw [hrun] at hlater hresult
  have hone : ([call].mapM LoadCall.read).run state =
      ([(call.read.run state).1], (call.read.run state).2) := by
    rw [LoadCall.run_mapM_read_cons]
    rfl
  unfold LoadsTo
  rw [hone]
  cases hread : (call.read.run state).1 with
  | error failure =>
      rw [hread] at hresult
      simp only at hresult
      rw [hresult]
      exact ⟨failure, List.mem_singleton_self _⟩
  | ok declarations =>
      rw [hread] at hresult
      simp only at hresult
      rw [hresult]
      refine ⟨[declarations], by rw [← hlater]; rfl, ?_⟩
      rw [List.flatten_singleton]
      rfl

/-- Inputs of one kind are loaded up to the first one that fails.  The induction is on the
inputs; the first one is loaded into the generator that the others start from. -/
theorem loadsTo_of_loadAll {α : Type} {load : Generator → α → StateM σ (Outcome Generator)}
    {blame : α → LoadFault} {call : α → LoadCall}
    (hcall : ∀ generator input, load generator input = (call input).outcome generator)
    {inputs : List α} {records : List Log.Record}
    (hrun : (loadAll load blame generator inputs).run state = ((records, result), later)) :
    LoadsTo generator (inputs.map call) state result later := by
  induction inputs generalizing generator state records with
  | nil =>
      cases hrun
      exact ⟨[], rfl, rfl⟩
  | cons input rest ih =>
      obtain ⟨outcome, middle, hload, hrun⟩ := run_bind_eq hrun
      rw [hcall] at hload
      have hfirst := loadsTo_of_outcome (blame input) hload
      rw [List.map_cons, ← List.singleton_append]
      cases hresult : outcome.result with
      | error failure =>
          rw [hresult] at hrun hfirst
          cases hrun
          exact hfirst.stop _
      | ok generator =>
          rw [hresult] at hrun hfirst
          obtain ⟨⟨_, last⟩, final, hrest, hrun⟩ := run_bind_eq hrun
          cases hrun
          exact hfirst.append (ih hrest)

theorem loadsTo_of_loadInputs {configuration : Configuration} {records : List Log.Record}
    (hrun : (loadInputs configuration : StateM σ _).run state = ((records, result), later)) :
    LoadsTo (.start configuration.settings) configuration.calls state result later := by
  obtain ⟨⟨first, sourced⟩, middle, hsources, hrun⟩ := run_bind_eq hrun
  have hfront : LoadsTo (.start configuration.settings)
      (configuration.sources.map fun source => .sourceFile source.path source.module) state
        sourced middle :=
    loadsTo_of_loadAll (fun _ _ => rfl) hsources
  cases sourced with
  | error fault =>
      cases hrun
      exact hfront.stop _
  | ok generator =>
      obtain ⟨⟨further, loaded⟩, final, hmanifests, hrun⟩ := run_bind_eq hrun
      have hback : LoadsTo generator (configuration.manifests.map .manifestFile) middle loaded
          final :=
        loadsTo_of_loadAll (fun _ _ => rfl) hmanifests
      cases hrun
      exact hfront.append hback

end Loading

namespace CommandLine

open Noted

/-! ## The inputs of a run -/

/-- A path in a configuration file as the run takes it: an absolute one as it stands, and
a relative one from the directory of the file. -/
def seenFrom (file path : String) : String :=
  if Path.isAbsolute path then path
  else
    match Path.parent? file with
    | some directory => Path.join directory path
    | none => path

/-- What the configuration file says, if it can be read and holds a configuration.  A run
without a file starts from the empty configuration. -/
def RunOptions.stated {m : Type → Type} [Monad m] [FileStore m] (options : RunOptions) :
    m (Option Configuration) :=
  match options.configuration with
  | none => return some {}
  | some file => do
      match ← FileStore.read file with
      | .error _ => return none
      | .ok text => return Configuration.ofText? text

/-- The inputs of a run in the order in which they count: the sources of the file, those of
the options, the manifests of the file, and those of the options. -/
def RunOptions.inputs (options : RunOptions) (stated : Configuration) : List LoadCall :=
  let seen := fun path => options.configuration.elim path fun file => seenFrom file path
  stated.sources.map (fun source => .sourceFile (seen source.path) source.module) ++
    options.sources.map (fun source => .sourceFile source.path source.module) ++
    stated.manifests.map (fun path => .manifestFile (seen path)) ++
    options.manifests.map .manifestFile

/-- In a file tree, a relative path in a configuration file that can be read leads where
its names lead from the directory in which the file lies. -/
theorem lexical_seenFrom {tree : FileTree} {file text path name : String} {front : List String}
    (hread : tree.read file = .ok text) (hnames : Path.names file = front ++ [name])
    (hname : name ≠ "..") (hrelative : Path.isAbsolute path = false) :
    tree.lexical (seenFrom file path) =
      FileTree.walk (tree.lexical file).dropLast (Path.names path) := by
  obtain ⟨location, hlocate, hnode⟩ := bind_eq_ok_iff.mp hread
  have hfile : tree.get? location ≠ some .directory := fun hdirectory => by
    rw [hdirectory] at hnode
    cases hnode
  obtain ⟨⟨start, names⟩, hroute, hfollow⟩ := bind_eq_ok_iff.mp hlocate
  obtain ⟨rfl, rfl⟩ := FileTree.eq_of_route hroute
  -- A step to the same place starts from a directory, so the last name is no such step.
  have hstay : ∀ next, tree.step next "." ≠ .ok location := fun next hstep => by
    obtain ⟨hdirectory, hsame, _⟩ := FileTree.step_eq_ok_iff.mp hstep
    rw [FileTree.walkStep, if_pos rfl] at hsame
    exact hfile (hsame ▸ hdirectory)
  cases hends : Path.endsInSlash file with
  | true =>
      simp only [hends, if_true] at hfollow
      obtain ⟨next, _, hstep⟩ := FileTree.follow_concat_eq_ok_iff.mp hfollow
      exact absurd hstep (hstay next)
  | false =>
      simp only [hends, hnames] at hfollow
      obtain ⟨next, _, hstep⟩ := FileTree.follow_concat_eq_ok_iff.mp hfollow
      have hdot : name ≠ "." := fun heq => hstay next (heq ▸ hstep)
      obtain ⟨base, points, hparent, habsolute, rfl, hpoints⟩ :=
        Path.exists_parent hnames hdot hends
      have hdirectory : (tree.lexical file).dropLast = tree.lexical base := by
        have hstart : tree.origin base = tree.origin file := by
          rw [FileTree.origin, habsolute, FileTree.origin]
        rw [FileTree.lexical, hnames, FileTree.walk_concat, FileTree.walkStep, if_neg hdot,
          if_neg hname, List.dropLast_concat, FileTree.walk_append, FileTree.walk_points hpoints,
          FileTree.lexical, hstart]
      have hseen : seenFrom file path = Path.join base path := by
        rw [seenFrom, hrelative, hparent, if_neg Bool.false_ne_true]
      have hstart : tree.origin (Path.join base path) = tree.origin base := by
        rw [FileTree.origin, Path.isAbsolute_join_of_relative hrelative, FileTree.origin]
      rw [hseen, hdirectory, FileTree.lexical, hstart, Path.names_join_of_relative hrelative,
        FileTree.walk_append, FileTree.lexical]

theorem calls_merge_resolve {options : RunOptions} {file : String}
    (hfile : options.configuration = some file) (stated : Configuration) :
    (options.merge (match Path.parent? file with
      | some base => stated.resolve base
      | none => stated)).calls = options.inputs stated := by
  unfold RunOptions.inputs Configuration.calls RunOptions.merge
  rw [hfile]
  cases hbase : Path.parent? file with
  | some base =>
      have hseen : Path.join base = seenFrom file := by
        funext path
        rw [seenFrom, hbase]
        by_cases habsolute : Path.isAbsolute path = true
        · rw [if_pos habsolute, Path.join, if_pos habsolute]
        · rw [if_neg habsolute]
      simp [Configuration.resolve, hseen, Function.comp_def]
  | none => simp [seenFrom, hbase]

theorem hasNoInputs_iff {configuration : Configuration} :
    configuration.hasNoInputs = true ↔ configuration.calls = [] := by
  simp [Configuration.hasNoInputs, Configuration.calls]

section Runs

variable {σ : Type} [FileStore (StateM σ)] {words : List String} {options : RunOptions}
  {environment : Option String} {transcript : Transcript}

theorem run_loadConfiguration_of_read {file text : String} {state middle : σ}
    (hread : (FileStore.read file : StateM σ _).run state = (.ok text, middle)) :
    (loadConfiguration file : StateM σ _).run state =
      ((Configuration.ofFile? file text).elim (.error (.malformed file)) .ok, middle) := by
  obtain ⟨result, later, hload⟩ : ∃ result later,
      (loadConfiguration file : StateM σ _).run state = (result, later) :=
    ⟨_, _, rfl⟩
  rw [hload]
  obtain ⟨content, ready, hcontent, hload⟩ := run_bind_eq hload
  cases hread.symm.trans hcontent
  simp only at hload
  cases hparse : Configuration.ofFile? file text with
  | none =>
      rw [hparse] at hload
      cases hload
      rfl
  | some configuration =>
      rw [hparse] at hload
      cases hload
      rfl

/-- The run merges the options with what the file states, or finds a fault in the file. -/
theorem configured_of_stated {state middle : σ} {found : Option Configuration}
    (hstated : (options.stated : StateM σ _).run state = (found, middle)) :
    ∃ result, (options.configured : StateM σ _).run state = (result, middle) ∧
      (found = none → ∃ fault, result = .error fault) ∧
      ∀ stated, found = some stated → ∃ configuration, result = .ok configuration ∧
        configuration.calls = options.inputs stated := by
  unfold RunOptions.stated at hstated
  unfold RunOptions.configured
  cases hfile : options.configuration with
  | none =>
      rw [hfile] at hstated
      cases hstated
      refine ⟨_, rfl, nofun, ?_⟩
      rintro stated ⟨⟩
      refine ⟨_, rfl, ?_⟩
      simp [Configuration.calls, RunOptions.merge, RunOptions.inputs]
  | some file =>
      rw [hfile] at hstated
      obtain ⟨result, later, hread, hstated⟩ := run_bind_eq hstated
      cases result with
      | error fault =>
          cases hstated
          refine ⟨.error (.unreadable file), ?_, fun _ => ⟨_, rfl⟩, nofun⟩
          simp only [StateT.run_bind, loadConfiguration, hread]
          rfl
      | ok text =>
          cases hstated
          simp only [StateT.run_bind, run_loadConfiguration_of_read hread, Configuration.ofFile?]
          refine ⟨_, rfl, fun hnone => ?_, fun stated hsome => ?_⟩
          · exact ⟨.malformed file, by rw [hnone]; rfl⟩
          · refine ⟨_, by rw [hsome]; rfl, calls_merge_resolve hfile stated⟩

/-! ## What a run comes to -/

/-- The run has ended with an error, made no request and printed no text. -/
structure Fails (state later : Noted σ) (transcript : Transcript) : Prop where
  exitCode : transcript.exitCode ≠ 0
  untouched : Untouched state later
  text : ∀ content, .text content ∉ transcript.outputs

theorem fails_of_unlogged {state later : Noted σ} {message : String}
    (huntouched : Untouched state later) (hfail : transcript.unlogged = .fail message) :
    Fails state later transcript where
  exitCode := by simp [Transcript.exitCode_of_fail hfail]
  untouched := huntouched
  text := by
    intro content hmem
    rw [← Transcript.text_mem_unlogged, hfail] at hmem
    simp [Transcript.fail] at hmem

/-- A run fails that goes on behind a part that only reads with one that fails. -/
theorem Fails.behind {state middle later : Noted σ} {core : Transcript}
    (hfails : Fails middle later core) (huntouched : Untouched state middle)
    (hshown : transcript.unlogged = core.unlogged) : Fails state later transcript where
  exitCode := by
    rw [Transcript.exitCode_eq hshown]
    exact hfails.exitCode
  untouched := huntouched.trans hfails.untouched
  text := by
    intro content hmem
    rw [← Transcript.text_mem_unlogged, hshown, Transcript.text_mem_unlogged] at hmem
    exact hfails.text content hmem

theorem readsOnly_configured (options : RunOptions) :
    ReadsOnly (options.configured : StateM (Noted σ) _) := by
  unfold RunOptions.configured
  split
  · exact readsOnly_pure _
  · exact (readsOnly_loadConfiguration _).bind fun _ => readsOnly_pure _

/-- What the run of a configuration comes to, told by what its calls read. -/
theorem ends_of_runConfiguration {state later : Noted σ} {configuration : Configuration}
    (hrun : (runConfiguration options environment configuration : StateM (Noted σ) _).run state =
      (transcript, later)) :
    let reads := (configuration.calls.mapM LoadCall.read : StateM (Noted σ) _).run state
    (configuration.calls = [] → transcript.unlogged = .succeed [.text quickStart]) ∧
    ((∃ failure, .error failure ∈ reads.1) → Fails state later transcript) ∧
    (configuration.calls ≠ [] → (∀ failure, .error failure ∉ reads.1) →
      ∃ records generator loaded core,
        (loadInputs configuration : StateM (Noted σ) _).run state =
            ((records, .ok generator), reads.2) ∧
          reads.1 = loaded.map .ok ∧ generator.Holds loaded ∧
          (finish options configuration environment generator :
            StateM (Noted σ) _).run reads.2 = (core, later) ∧
          transcript.unlogged = core.unlogged) := by
  intro reads
  by_cases hempty : configuration.calls = []
  · unfold runConfiguration at hrun
    rw [hasNoInputs_iff.mpr hempty] at hrun
    cases hrun
    refine ⟨fun _ => rfl, ?_, fun hsome => absurd hempty hsome⟩
    rintro ⟨failure, hfailure⟩
    simp only [reads, hempty] at hfailure
    cases hfailure
  · have hinputs : configuration.hasNoInputs = false := by
      rw [← Bool.not_eq_true, hasNoInputs_iff]
      exact hempty
    obtain ⟨records, result, ready, hload, hrest⟩ := steps_of_runConfiguration hinputs hrun
    have hloads := loadsTo_of_loadInputs hload
    cases result with
    | error fault =>
        obtain ⟨rfl, message, hfail⟩ := hrest
        obtain ⟨failure, hfailure⟩ := hloads
        -- The run ends with loading, which changes nothing.
        have huntouched : Untouched state later := by
          have hreads := readsOnly_loadInputs configuration state
          rwa [hload] at hreads
        exact ⟨fun hnone => absurd hnone hempty,
          fun _ => fails_of_unlogged huntouched hfail, fun _ hall => absurd hfailure (hall failure)⟩
    | ok generator =>
        obtain ⟨core, hcore, hshown⟩ := hrest
        obtain ⟨loaded, hloaded, htable⟩ := hloads
        have hready : reads = (loaded.map .ok, ready) := hloaded
        rw [hready]
        refine ⟨fun hnone => absurd hnone hempty, ?_, fun _ _ => ?_⟩
        · rintro ⟨failure, hfailure⟩
          obtain ⟨declarations, _, heq⟩ := List.mem_map.mp hfailure
          cases heq
        · exact ⟨records, generator, loaded, core, hload, rfl, holds_of_table htable, hcore, hshown⟩

/-! ## Main result -/

/-- A run whose inputs all have declarations goes on with a generator that holds them, input
by input in their order: at each path stands the definition of the last input that has one,
in the place of the first.  If an input has none to give, or the configuration file none to
name, the run ends with an error before it has changed or printed anything. -/
theorem run_takes_last {state middle later : Noted σ} {found : Option Configuration}
    (hoptions : RunOptions.ofWords words = .ok options)
    (hstated : (options.stated : StateM (Noted σ) _).run state = (found, middle))
    (hrun : (run words environment : StateM (Noted σ) _).run state = (transcript, later)) :
    (found = none → Fails state later transcript) ∧
    ∀ stated, found = some stated →
      let inputs := options.inputs stated
      let reads := (inputs.mapM LoadCall.read : StateM (Noted σ) _).run middle
      (inputs = [] → transcript.unlogged = .succeed [.text quickStart]) ∧
      ((∃ failure, .error failure ∈ reads.1) → Fails state later transcript) ∧
      (inputs ≠ [] → (∀ failure, .error failure ∉ reads.1) →
        ∃ configuration generator loaded core,
          options.Loads state configuration generator reads.2 ∧
            reads.1 = loaded.map .ok ∧ generator.Holds loaded ∧
            (finish options configuration environment generator :
              StateM (Noted σ) _).run reads.2 = (core, later) ∧
            transcript.unlogged = core.unlogged) := by
  obtain ⟨result, hconfigured, hnone, hsome⟩ := configured_of_stated hstated
  have huntouched : Untouched state middle := by
    have hreads := readsOnly_configured options state
    rwa [hconfigured] at hreads
  obtain ⟨result', middle', hresult, hrest⟩ := steps_of_run hoptions hrun
  cases hconfigured.symm.trans hresult
  refine ⟨fun hfound => ?_, fun stated hfound => ?_⟩
  · obtain ⟨fault, rfl⟩ := hnone hfound
    obtain ⟨rfl, message, hfail⟩ := hrest
    exact fails_of_unlogged huntouched hfail
  · obtain ⟨configuration, rfl, hcalls⟩ := hsome stated hfound
    obtain ⟨core, hcore, hshown⟩ := hrest
    obtain ⟨hempty, hfails, hloaded⟩ := ends_of_runConfiguration hcore
    rw [hcalls] at hempty hfails hloaded
    refine ⟨fun hinputs => hshown.trans (hempty hinputs),
      fun hfailure => (hfails hfailure).behind huntouched hshown, fun hinputs hall => ?_⟩
    obtain ⟨records, generator, loaded, inner, hload, hreads, hholds, hinner, hsame⟩ :=
      hloaded hinputs hall
    have hgiven : configuration.hasNoInputs = false := by
      rw [← Bool.not_eq_true, hasNoInputs_iff, hcalls]
      exact hinputs
    exact ⟨configuration, generator, loaded, inner,
      ⟨hgiven, middle, records, hconfigured, hload⟩, hreads, hholds, hinner, hshown.trans hsame⟩

end Runs

/-- A configuration file that names a manifest beside it. -/
def deskConfiguration : String :=
  "[input]\nmanifests = [\"visit.toml\"]\n"

/-- A file tree with a configuration in a directory, and a manifest of the same name in the
directory and beside it.  Both manifests define one of the paths. -/
def desk : Noted FileTree where
  store := {
    nodes := [
      (["work"], .directory),
      (["work", "conf"], .directory),
      (["work", "conf", "codegen.toml"], .file deskConfiguration.toUTF8),
      (["work", "conf", "visit.toml"], .file (
        "[[declaration]]\nname = \"Visit\"\nmember = [\x7b name = \"Opened\" \x7d]\n" ++
        "[[declaration]]\nname = \"Tour\"\nmember = [\x7b name = \"Left\" \x7d]\n").toUTF8),
      (["work", "visit.toml"], .file
        "[[declaration]]\nname = \"Visit\"\nmember = [\x7b name = \"Closed\" \x7d]\n".toUTF8)]
    here := ["work"] }
  requests := []

/-- The options of a run with the configuration, and with the other manifest. -/
def deskOptions : RunOptions where
  sources := []
  manifests := ["visit.toml"]
  outputDirectory := none
  configuration := some "conf/codegen.toml"
  marker := none
  dryRun := true
  json := false
  verbosity := 0
  quiet := false

/-- The manifest of the configuration is the one in its directory.  That of the options comes
after it and takes the place of its first definition. -/
theorem run_takes_last_desk :
    ∃ transcript later configuration generator ready,
      (run ["-c", "conf/codegen.toml", "-m", "visit.toml", "--dry-run"] none :
          StateM (Noted FileTree) _).run desk = (transcript, later) ∧
        deskOptions.Loads desk configuration generator ready ∧
        configuration.manifests = ["conf/visit.toml", "visit.toml"] ∧
        generator.table.toList.map (fun declaration =>
            (declaration.path, declaration.members.map Member.name)) =
          [("Visit", ["Closed"]), ("Tour", ["Left"])] := by
  obtain ⟨transcript, later, hrun⟩ : ∃ transcript later,
      (run ["-c", "conf/codegen.toml", "-m", "visit.toml", "--dry-run"] none :
        StateM (Noted FileTree) _).run desk = (transcript, later) :=
    ⟨_, _, rfl⟩
  have hoptions : RunOptions.ofWords ["-c", "conf/codegen.toml", "-m", "visit.toml", "--dry-run"] =
      .ok deskOptions := rfl
  have hfound : ((deskOptions.stated : StateM (Noted FileTree) _).run desk).1 =
      some { manifests := ["visit.toml"] } := by
    decide +kernel
  have hstated : (deskOptions.stated : StateM (Noted FileTree) _).run desk =
      (some { manifests := ["visit.toml"] },
        ((deskOptions.stated : StateM (Noted FileTree) _).run desk).2) := by
    rw [← hfound, Prod.mk.eta]
  obtain ⟨_, _, hloaded⟩ := (run_takes_last hoptions hstated hrun).2 _ rfl
  have hviews : (((deskOptions.inputs { manifests := ["visit.toml"] }).mapM LoadCall.read :
      StateM (Noted FileTree) _).run
        ((deskOptions.stated : StateM (Noted FileTree) _).run desk).2).1.map
          (fun read => read.toOption.isSome) = [true, true] := by
    decide +kernel
  obtain ⟨configuration, generator, loaded, _, hloads, hreads, hholds, _⟩ :=
    hloaded (by simp [RunOptions.inputs, deskOptions]) fun failure hmem => by
      have hview := List.mem_map_of_mem (f := fun read => read.toOption.isSome) hmem
      rw [hviews] at hview
      simp [Except.toOption] at hview
  refine ⟨transcript, later, configuration, generator, _, hrun, hloads, ?_, ?_⟩
  · obtain ⟨_, middle, _, hconfigured, _⟩ := hloads
    have hmanifests : ((deskOptions.configured : StateM (Noted FileTree) _).run desk).1.toOption.map
        Configuration.manifests = some ["conf/visit.toml", "visit.toml"] := by
      decide +kernel
    rw [hconfigured] at hmanifests
    exact Option.some_inj.mp hmanifests
  · have hread : ∀ reads : List (Except Failure (List Declaration)),
        reads = loaded.map .ok → loaded = reads.filterMap Except.toOption := by
      rintro reads rfl
      simp [List.filterMap_map, Function.comp_def, Except.toOption]
    rw [hholds.toList, hread _ hreads]
    decide +kernel

end CommandLine

end EventDispatch
