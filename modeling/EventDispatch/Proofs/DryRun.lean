import EventDispatch.Proofs.Options
import EventDispatch.Proofs.Requests

/-!
# A dry run shows what a run writes

A run and the dry run of the same command line part only when everything is loaded.
From there the dry run prepares and prints, while the other one looks for a directory,
prepares, writes and reports.  So what both have in common is taken apart once
(`steps_of_run`, `steps_of_runConfiguration`), and then the end of each is compared.

`dryRun_shows` does this on a store that notes what it is asked to change, so that what
the run writes can be set against what the dry run prints.
-/

namespace EventDispatch.CommandLine

/-! ## Transcripts without the log -/

namespace Transcript

/-- The transcript without its log records. -/
def unlogged (transcript : Transcript) : Transcript :=
  { transcript with
    outputs := transcript.outputs.filter fun output =>
      match output with
      | .record _ => false
      | _ => true }

@[simp]
theorem unlogged_afterRecords (records : List Log.Record) (transcript : Transcript) :
    (transcript.afterRecords records).unlogged = transcript.unlogged := by
  simp [unlogged, afterRecords, after, List.filter_append]

/-- The level chooses among log records only. -/
@[simp]
theorem unlogged_upTo (level : Log.Level) (transcript : Transcript) :
    (transcript.upTo level).unlogged = transcript.unlogged := by
  simp only [unlogged, upTo, List.filter_filter, Transcript.mk.injEq, and_true]
  refine List.filter_congr fun output _ => ?_
  cases output <;> simp

theorem unlogged_succeed {outputs : List Output} (hnone : ∀ record, .record record ∉ outputs) :
    (succeed outputs).unlogged = succeed outputs := by
  simp only [unlogged, succeed, Transcript.mk.injEq, and_true]
  refine List.filter_eq_self.mpr fun output hmem => ?_
  cases output with
  | text content => rfl
  | message content => rfl
  | record record => exact absurd hmem (hnone record)

theorem text_mem_unlogged {content : String} {transcript : Transcript} :
    .text content ∈ transcript.unlogged.outputs ↔ .text content ∈ transcript.outputs := by
  simp [unlogged]

@[simp]
theorem unlogged_fail (message : String) : (fail message).unlogged = fail message :=
  rfl

theorem exitCode_eq {transcript other : Transcript} (hsame : transcript.unlogged = other.unlogged) :
    transcript.exitCode = other.exitCode :=
  congrArg (fun shown => shown.exitCode) hsame

theorem exitCode_of_fail {transcript : Transcript} {message : String}
    (hfail : transcript.unlogged = fail message) : transcript.exitCode = 1 :=
  exitCode_eq (hfail.trans (unlogged_fail message).symm)

end Transcript

/-! ## Loading -/

section

variable {m : Type → Type} [Monad m] [FileStore m]

/-- The configuration of a run: that of the file that the options name, if they name one,
with what the options add. -/
def RunOptions.configured (options : RunOptions) : m (Except ConfigurationFault Configuration) :=
  match options.configuration with
  | none => return .ok (options.merge {})
  | some path => do return (← loadConfiguration path).map options.merge

/-- How a run goes on when everything is loaded. -/
def finish (options : RunOptions) (configuration : Configuration) (environment : Option String)
    (generator : Generator) : m Transcript :=
  if options.dryRun then return dryRun generator
  else writingRun options configuration environment generator

end

section Runs

variable {σ : Type} [FileStore (StateM σ)] {words : List String} {options : RunOptions}
  {configuration : Configuration} {generator : Generator} {environment : Option String}
  {transcript : Transcript} {state middle ready later : σ}

/-- If the run finds a configuration, this has something to generate from. -/
def RunOptions.HasInputs (options : RunOptions) (state : σ) : Prop :=
  ∀ configuration middle, (options.configured : StateM σ _).run state = (.ok configuration, middle) →
    configuration.hasNoInputs = false

/-- The run finds a configuration with inputs, loads all of them and goes on with the
generator. -/
def RunOptions.Loads (options : RunOptions) (state : σ) (configuration : Configuration)
    (generator : Generator) (ready : σ) : Prop :=
  configuration.hasNoInputs = false ∧
    ∃ middle records, (options.configured : StateM σ _).run state = (.ok configuration, middle) ∧
      (loadInputs configuration : StateM σ _).run middle = ((records, .ok generator), ready)

/-- The run loads all of its inputs, and its round has the outcome. -/
def RunOptions.Generates (options : RunOptions) (environment : Option String) (state : σ)
    (outcome : Outcome Report) (later : σ) : Prop :=
  ∃ configuration generator ready, options.Loads state configuration generator ready ∧
    (generator.generate configuration.outputDirectory environment : StateM σ _).run ready =
      (outcome, later)

theorem steps_of_run (hoptions : RunOptions.ofWords words = .ok options)
    (hrun : (run words environment : StateM σ _).run state = (transcript, later)) :
    ∃ result middle, (options.configured : StateM σ _).run state = (result, middle) ∧
      match result with
      | .error _ => later = middle ∧ ∃ message, transcript.unlogged = .fail message
      | .ok configuration => ∃ core,
          (runConfiguration options environment configuration : StateM σ _).run middle =
            (core, later) ∧ transcript.unlogged = core.unlogged := by
  unfold run at hrun
  rw [hoptions] at hrun
  obtain ⟨full, last, hfull, hrun⟩ := run_bind_eq hrun
  cases hrun
  unfold runFully at hfull
  unfold RunOptions.configured
  cases hpath : options.configuration with
  | none =>
      rw [hpath] at hfull
      obtain ⟨core, last, hcore, hfull⟩ := run_bind_eq hfull
      cases hfull
      exact ⟨_, state, rfl, core, hcore, by simp⟩
  | some path =>
      rw [hpath] at hfull
      obtain ⟨loaded, middle, hload, hfull⟩ := run_bind_eq hfull
      refine ⟨loaded.map options.merge, middle, ?_, ?_⟩
      · rw [StateT.run_bind, hload]
        rfl
      cases loaded with
      | error fault =>
          cases hfull
          exact ⟨rfl, fault.describe, by simp⟩
      | ok configuration =>
          obtain ⟨core, last, hcore, hfull⟩ := run_bind_eq hfull
          cases hfull
          exact ⟨core, hcore, by simp⟩

theorem steps_of_runConfiguration (hinputs : configuration.hasNoInputs = false)
    (hrun : (runConfiguration options environment configuration : StateM σ _).run middle =
      (transcript, later)) :
    ∃ records result ready, (loadInputs configuration : StateM σ _).run middle =
        ((records, result), ready) ∧
      match result with
      | .error _ => later = ready ∧ ∃ message, transcript.unlogged = .fail message
      | .ok generator => ∃ core,
          (finish options configuration environment generator : StateM σ _).run ready =
            (core, later) ∧ transcript.unlogged = core.unlogged := by
  unfold runConfiguration at hrun
  rw [hinputs] at hrun
  obtain ⟨⟨records, result⟩, ready, hload, hrun⟩ := run_bind_eq hrun
  refine ⟨records, result, ready, hload, ?_⟩
  cases result with
  | error fault =>
      cases hrun
      exact ⟨rfl, fault.describe, by simp⟩
  | ok generator =>
      unfold finish
      cases hdryRun : options.dryRun with
      | true =>
          simp only [hdryRun, if_true] at hrun
          cases hrun
          exact ⟨dryRun generator, rfl, by simp⟩
      | false =>
          simp only [hdryRun] at hrun
          obtain ⟨core, last, hcore, hrun⟩ := run_bind_eq hrun
          cases hrun
          exact ⟨core, hcore, by simp⟩

/-- When everything is loaded, the run goes on from there. -/
theorem run_of_loads (hoptions : RunOptions.ofWords words = .ok options)
    (hloads : options.Loads state configuration generator ready)
    (hrun : (run words environment : StateM σ _).run state = (transcript, later)) :
    ∃ core, (finish options configuration environment generator : StateM σ _).run ready =
      (core, later) ∧ transcript.unlogged = core.unlogged := by
  obtain ⟨hinputs, middle, records, hconfigured, hload⟩ := hloads
  obtain ⟨result, middle', hresult, hrest⟩ := steps_of_run hoptions hrun
  cases hconfigured.symm.trans hresult
  obtain ⟨outer, houter, hshown⟩ := hrest
  obtain ⟨records', result, ready', hresult, hrest⟩ := steps_of_runConfiguration hinputs houter
  cases hload.symm.trans hresult
  obtain ⟨core, hcore, hsame⟩ := hrest
  exact ⟨core, hcore, hshown.trans hsame⟩

theorem exitCode_of_not_loads (hoptions : RunOptions.ofWords words = .ok options)
    (hinputs : options.HasInputs state)
    (hloads : ¬∃ configuration generator ready, options.Loads state configuration generator ready)
    (hrun : (run words environment : StateM σ _).run state = (transcript, later)) :
    transcript.exitCode = 1 := by
  obtain ⟨result, middle, hconfigured, hrest⟩ := steps_of_run hoptions hrun
  cases result with
  | error fault =>
      obtain ⟨_, _, hfail⟩ := hrest
      exact Transcript.exitCode_of_fail hfail
  | ok configuration =>
      obtain ⟨outer, houter, hshown⟩ := hrest
      have hsome := hinputs configuration middle hconfigured
      obtain ⟨records, result, ready, hload, hrest⟩ := steps_of_runConfiguration hsome houter
      cases result with
      | error fault =>
          obtain ⟨_, _, hfail⟩ := hrest
          exact Transcript.exitCode_of_fail (hshown.trans hfail)
      | ok generator =>
          exact absurd ⟨configuration, generator, ready, hsome, middle, records, hconfigured, hload⟩
            hloads

/-- A run shows its report, or it fails: then it was to show JSON, and one of the paths is not
text. -/
theorem unlogged_conclude (options : RunOptions) (report : Report) :
    (∃ outputs, options.show? report = some outputs ∧
        (options.conclude report).unlogged = .succeed outputs) ∨
      options.json = true ∧
        (∃ summary ∈ report.artifacts, Path.isText summary.path = false) ∧
        (options.conclude report).unlogged = .fail "path contains invalid UTF-8 characters" := by
  unfold RunOptions.conclude
  cases hshow : options.show? report with
  | some outputs =>
      refine .inl ⟨outputs, rfl, Transcript.unlogged_succeed fun record hmem => ?_⟩
      unfold RunOptions.show? Report.jsonText? at hshow
      split at hshow
      · obtain ⟨content, _, rfl⟩ := Option.map_eq_some_iff.mp hshow
        simp at hmem
      · split at hshow <;> cases hshow <;> simp at hmem
  | none =>
      refine .inr ?_
      unfold RunOptions.show? Report.jsonText? at hshow
      split at hshow
      · rename_i hjson
        rw [Option.map_eq_none_iff, ite_eq_right_iff] at hshow
        have hforeign : report.isText = false := by simpa using hshow
        obtain ⟨summary, hmem, hpath⟩ := List.all_eq_false.mp hforeign
        exact ⟨hjson, ⟨summary, hmem, by simpa using hpath⟩, rfl⟩
      · split at hshow <;> cases hshow

theorem unlogged_of_writingRun
    (hrun : (writingRun options configuration environment generator : StateM σ _).run ready =
      (transcript, later)) :
    ∃ outcome, (generator.generate configuration.outputDirectory environment : StateM σ _).run ready =
        (outcome, later) ∧
      match outcome.result with
      | .ok report => transcript.unlogged = (options.conclude report).unlogged
      | .error _ => transcript.exitCode = 1 := by
  obtain ⟨outcome, last, hgenerate, hrun⟩ := run_bind_eq hrun
  cases hrun
  refine ⟨outcome, hgenerate, ?_⟩
  cases outcome.result with
  | ok report => simp
  | error failure => rfl

end Runs

/-! ## A dry run -/

section DryRun

open Noted

variable {σ : Type} [FileStore (StateM σ)] {front back : List String} {options : RunOptions}
  {environment : Option String}

theorem readsOnly_runConfiguration (hdryRun : options.dryRun = true)
    (configuration : Configuration) :
    ReadsOnly (runConfiguration options environment configuration : StateM (Noted σ) _) := by
  unfold runConfiguration
  split
  · exact readsOnly_pure _
  · refine (readsOnly_loadInputs configuration).bind fun (records, result) => ?_
    cases result with
    | error fault => exact readsOnly_pure _
    | ok generator =>
        exact (readsOnly_pure _).bind fun _ => readsOnly_pure _

/-- A dry run makes no request, however it ends. -/
theorem readsOnly_run {words : List String} (hoptions : RunOptions.ofWords words = .ok options)
    (hdryRun : options.dryRun = true) :
    ReadsOnly (run words environment : StateM (Noted σ) _) := by
  unfold run
  rw [hoptions]
  refine ReadsOnly.bind ?_ fun _ => readsOnly_pure _
  unfold runFully
  split
  · exact (readsOnly_runConfiguration hdryRun _).bind fun _ => readsOnly_pure _
  · refine (readsOnly_loadConfiguration _).bind fun loaded => ?_
    cases loaded with
    | error fault => exact (readsOnly_pure _).bind fun _ => readsOnly_pure _
    | ok configuration =>
        exact (readsOnly_runConfiguration hdryRun _).bind fun _ => readsOnly_pure _

/-- What a dry run prints of a preparation. -/
theorem unlogged_dryRun {generator : Generator} {preparation : Preparation}
    (hprepare : generator.prepare.result = .ok preparation) :
    (dryRun generator).unlogged = .succeed
      (preparation.artifacts.map (fun artifact => .text (preview artifact)) ++
        preparation.diagnostics.map fun diagnostic => .message (diagnostic.describe ++ "\n")) := by
  simp only [dryRun, hprepare, Transcript.unlogged_afterRecords]
  exact Transcript.unlogged_succeed (by simp)

theorem exitCode_dryRun_eq_zero_iff {generator : Generator} :
    (dryRun generator).exitCode = 0 ↔ ∃ preparation, generator.prepare.result = .ok preparation := by
  unfold dryRun
  simp only
  split
  · rename_i hfailure
    simp [hfailure, Transcript.afterRecords, Transcript.after, Transcript.fail]
  · rename_i hprepare
    simp [hprepare, Transcript.afterRecords, Transcript.after, Transcript.succeed]

/-! ## Main result -/

/-- A dry run makes no request, and leaves a store as it is where reading does.  If the run
of the same command line without the option succeeds, the dry run succeeds too: its text
shows, for one artifact after the other in the order of the report, the name and the
declaration and then what the run asked the store to write for it, and its messages are
the diagnostics of the report.  If the dry run succeeds, the run succeeds, or it has found
no output directory, or one of its requests was refused, or all were granted and it was to
show a path as JSON that is not text. -/
theorem dryRun_shows {state realEnd dryEnd : Noted σ} {real dry : Transcript}
    (hfront : ReadsAlone front) (hoptions : RunOptions.ofWords (front ++ back) = .ok options)
    (hdryRun : options.dryRun = false) (hinputs : options.HasInputs state)
    (hreal : (run (front ++ back) environment : StateM (Noted σ) _).run state = (real, realEnd))
    (hdry : (run (front ++ "--dry-run" :: back) environment : StateM (Noted σ) _).run state =
      (dry, dryEnd)) :
    dryEnd.requests = state.requests ∧ (FileStore.Still σ → dryEnd.store = state.store) ∧
    (real.exitCode = 0 → ∃ outcome report directory artifacts outputs,
      options.Generates environment state outcome realEnd ∧ outcome.result = .ok report ∧
      report.artifacts = artifacts.map (Artifact.summary directory) ∧
      realEnd.requests = state.requests ++ granted (roundRequests directory artifacts) ∧
      options.show? report = some outputs ∧ real.unlogged = .succeed outputs ∧
      dry.exitCode = 0 ∧
      dry.unlogged = .succeed
        (artifacts.map (fun artifact => .text
            (s!"// ---- {artifact.fileName} ({artifact.declaration}) ----\n" ++ artifact.source)) ++
          report.diagnostics.map fun diagnostic => .message (diagnostic.describe ++ "\n"))) ∧
    (dry.exitCode = 0 → real.exitCode = 0 ∨ ∃ outcome,
      options.Generates environment state outcome realEnd ∧
      (outcome.result = .error .noOutputDirectory ∨
        (∃ directory artifacts fault, outcome.result = .error (.files fault) ∧
          Asked (roundRequests directory artifacts) (.error fault) state realEnd) ∨
        ∃ report directory artifacts, outcome.result = .ok report ∧
          report.artifacts = artifacts.map (Artifact.summary directory) ∧
          realEnd.requests = state.requests ++ granted (roundRequests directory artifacts) ∧
          options.json = true ∧
          (∃ summary ∈ report.artifacts, Path.isText summary.path = false) ∧
          real.unlogged = .fail "path contains invalid UTF-8 characters")) := by
  have hdryOptions := ofWords_insert hfront hoptions hdryRun
  have huntouched : Untouched state dryEnd := by
    have hreads : Untouched state ((run _ environment : StateM (Noted σ) _).run state).2 :=
      readsOnly_run hdryOptions rfl state
    rwa [hdry] at hreads
  refine ⟨huntouched.requests, huntouched.store, ?_⟩
  by_cases hloads : ∃ configuration generator ready,
      options.Loads state configuration generator ready
  · obtain ⟨configuration, generator, ready, hloads⟩ := hloads
    -- From here on the two runs part: the dry one stays where everything is loaded.
    obtain ⟨core, hcore, hrealShown⟩ := run_of_loads hoptions hloads hreal
    obtain ⟨dryCore, hdryCore, hdryShown⟩ := run_of_loads hdryOptions hloads hdry
    cases hdryCore
    rw [finish, hdryRun] at hcore
    obtain ⟨outcome, hgenerate, hcoreShown⟩ := unlogged_of_writingRun hcore
    have hround : options.Generates environment state outcome realEnd :=
      ⟨configuration, generator, dryEnd, hloads, hgenerate⟩
    cases hresult : outcome.result with
    | error failure =>
        rw [hresult] at hcoreShown
        have hfails : real.exitCode = 1 := (Transcript.exitCode_eq hrealShown).trans hcoreShown
        refine ⟨fun hexit => by simp [hfails] at hexit, fun hexit => .inr ⟨outcome, hround, ?_⟩⟩
        rw [Transcript.exitCode_eq hdryShown] at hexit
        obtain ⟨preparation, hprepare⟩ := exitCode_dryRun_eq_zero_iff.mp hexit
        rcases asked_of_preparation hgenerate hprepare with
          ⟨_, hnone, _⟩ | ⟨directory, _, ⟨report, hok⟩ | ⟨fault, hfault, hasked⟩⟩
        · exact .inl hnone
        · cases hresult.symm.trans hok
        · exact .inr (.inl ⟨directory, preparation.artifacts, fault, hfault,
            hasked.of_requests_eq huntouched.requests⟩)
    | ok report =>
        rw [hresult] at hcoreShown
        obtain ⟨directory, preparation, _, hprepare, rfl, hasked⟩ :=
          asked_of_generate hgenerate hresult
        have hrequests := hasked.of_requests_eq huntouched.requests
        have hshown := hdryShown.trans (unlogged_dryRun hprepare)
        -- Everything is written, and it remains to show the report.
        rcases unlogged_conclude options _ with
          ⟨outputs, hshow, hconclude⟩ | ⟨hjson, hforeign, hconclude⟩
        · have hsuccess := hrealShown.trans (hcoreShown.trans hconclude)
          refine ⟨fun _ => ?_, fun _ => .inl (congrArg (fun shown => shown.exitCode) hsuccess)⟩
          exact ⟨outcome, _, directory, preparation.artifacts, outputs, hround, hresult, rfl,
            hrequests, hshow, hsuccess, congrArg (fun shown => shown.exitCode) hshown, hshown⟩
        · have hfailure := hrealShown.trans (hcoreShown.trans hconclude)
          refine ⟨fun hexit => ?_, fun _ => .inr ⟨outcome, hround, .inr (.inr ?_)⟩⟩
          · rw [Transcript.exitCode_of_fail hfailure] at hexit
            cases hexit
          · exact ⟨_, directory, preparation.artifacts, hresult, rfl, hrequests, hjson, hforeign,
              hfailure⟩
  · have hrealCode := exitCode_of_not_loads hoptions hinputs hloads hreal
    have hdryCode := exitCode_of_not_loads hdryOptions hinputs hloads hdry
    simp [hrealCode, hdryCode]

/-- A manifest of one enumeration, with one member that is an event and one that is not. -/
def visitManifest : String :=
  "[[declaration]]\nname = \"Visit\"\nmarkers = [\"analytics_event\"]\n" ++
    "member = [\x7b name = \"Opened\" \x7d, \x7b name = \"Moved\", extends = \"Trip\" \x7d]\n"

/-- A file tree that holds the manifest alone. -/
def archive : Noted FileTree where
  store := {
    nodes := [(["work"], .directory), (["work", "visit.toml"], .file visitManifest.toUTF8)]
    here := ["work"] }
  requests := []

/-- The options of a run on the manifest. -/
def visitOptions : RunOptions where
  sources := []
  manifests := ["visit.toml"]
  outputDirectory := some "out"
  configuration := none
  marker := none
  dryRun := false
  json := false
  verbosity := 0
  quiet := false

/-- The run makes two requests, for the directory and for one artifact, and the dry run
shows what the second of them was to write. -/
theorem dryRun_shows_visit :
    ∃ real realEnd dry dryEnd,
      (run (["-m", "visit.toml"] ++ ["-o", "out"]) none : StateM (Noted FileTree) _).run archive =
          (real, realEnd) ∧
        (run (["-m", "visit.toml"] ++ "--dry-run" :: ["-o", "out"]) none :
          StateM (Noted FileTree) _).run archive = (dry, dryEnd) ∧
        ReadsAlone ["-m", "visit.toml"] ∧ visitOptions.HasInputs archive ∧
        real.exitCode = 0 ∧ realEnd.requests.length = 2 ∧
        dryEnd.requests = [] ∧ dryEnd.store = archive.store ∧ dry.exitCode = 0 ∧
        ∃ directory artifacts, ∃ diagnostics : List Diagnostic,
          realEnd.requests = granted (roundRequests directory artifacts) ∧
          dry.unlogged = .succeed
            (artifacts.map (fun artifact => .text
                (s!"// ---- {artifact.fileName} ({artifact.declaration}) ----\n" ++
                  artifact.source)) ++
              diagnostics.map fun diagnostic => .message (diagnostic.describe ++ "\n")) := by
  obtain ⟨real, realEnd, hreal⟩ : ∃ real realEnd,
      (run (["-m", "visit.toml"] ++ ["-o", "out"]) none : StateM (Noted FileTree) _).run archive =
        (real, realEnd) :=
    ⟨_, _, rfl⟩
  obtain ⟨dry, dryEnd, hdry⟩ : ∃ dry dryEnd,
      (run (["-m", "visit.toml"] ++ "--dry-run" :: ["-o", "out"]) none :
        StateM (Noted FileTree) _).run archive = (dry, dryEnd) :=
    ⟨_, _, rfl⟩
  have hsuccess : Prod.map Transcript.exitCode (fun noted => noted.requests.length)
      ((run (["-m", "visit.toml"] ++ ["-o", "out"]) none : StateM (Noted FileTree) _).run
        archive) = (0, 2) := by
    decide +kernel
  rw [hreal, Prod.map, Prod.mk.injEq] at hsuccess
  have hfront : ReadsAlone ["-m", "visit.toml"] := ⟨by decide, _, rfl⟩
  have hoptions : RunOptions.ofWords (["-m", "visit.toml"] ++ ["-o", "out"]) = .ok visitOptions :=
    rfl
  have hinputs : visitOptions.HasInputs archive := by
    intro configuration middle hconfigured
    cases hconfigured
    rfl
  obtain ⟨hrequests, hstore, hshows, _⟩ := dryRun_shows hfront hoptions rfl hinputs hreal hdry
  obtain ⟨_, report, directory, artifacts, _, _, _, _, hwritten, _, _, hexit, hshown⟩ :=
    hshows hsuccess.1
  exact ⟨real, realEnd, dry, dryEnd, hreal, hdry, hfront, hinputs, hsuccess.1, hsuccess.2,
    hrequests, hstore still_fileTree, hexit, directory, artifacts, report.diagnostics, hwritten,
    hshown⟩

end DryRun

/-! ## A name that is not text -/

/-- Files by their full names, which may be any names.  There are all directories. -/
structure Shelf where
  files : List (String × String)

instance : FileStore (StateM Shelf) where
  read path := fun shelf => ((shelf.files.lookup path).elim (.error .notFound) .ok, shelf)
  makeDirectories _ := fun shelf => (.ok (), shelf)
  write path text := fun shelf => (.ok (), ⟨(path, text) :: shelf.files⟩)

/-- A shelf that holds the manifest alone. -/
def shelved : Noted Shelf where
  store := ⟨[("visit.toml", visitManifest)]⟩
  requests := []

/-- What a command line prints with the shelf at hand, and what becomes of that. -/
def onShelf (words : List String) (environment : Option String) : Transcript × Noted Shelf :=
  (run words environment : StateM (Noted Shelf) _).run shelved

/-- With an output directory whose name is the byte 255, the dry run succeeds, but the run
fails after its two requests have been granted.  With the option for the version, the run
succeeds without a request, and yet the dry run prints a text. -/
theorem run_fails_behind_dryRun :
    (onShelf ["-m", "visit.toml", "--json", "--dry-run"] (some "\x00ÿ")).1.exitCode = 0 ∧
      (onShelf ["-m", "visit.toml", "--json"] (some "\x00ÿ")).1.exitCode = 1 ∧
      (onShelf ["-m", "visit.toml", "--json"] (some "\x00ÿ")).1.unlogged =
        .fail "path contains invalid UTF-8 characters" ∧
      (onShelf ["-m", "visit.toml", "--json"] (some "\x00ÿ")).2.requests.map Prod.snd =
        [.ok (), .ok ()] ∧
      (onShelf ["-m", "visit.toml", "-V"] none).1.exitCode = 0 ∧
      (onShelf ["-m", "visit.toml", "-V"] none).2.requests = [] ∧
      (onShelf ["-m", "visit.toml", "--dry-run", "-V"] none).1 =
        .succeed [.text "event-codegen 0.1.0\n"] := by
  have hreal : Prod.map Transcript.unlogged (fun noted => noted.requests.map Prod.snd)
      (onShelf ["-m", "visit.toml", "--json"] (some "\x00ÿ")) =
        (.fail "path contains invalid UTF-8 characters", [.ok (), .ok ()]) := by
    decide +kernel
  have hfails := congrArg Prod.fst hreal
  rw [Prod.map_fst] at hfails
  have hgranted := congrArg Prod.snd hreal
  rw [Prod.map_snd] at hgranted
  exact ⟨by decide +kernel, Transcript.exitCode_of_fail hfails, hfails, hgranted, rfl, rfl, rfl⟩

end EventDispatch.CommandLine
