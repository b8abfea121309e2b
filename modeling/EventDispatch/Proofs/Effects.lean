import EventDispatch.Proofs.FileStore
import EventDispatch.Proofs.Generation

/-!
# What a round changes

A round prepares everything before it touches the store.  After that it makes the
output directory and writes one artifact after the other, and stops at the first
operation that fails.  So the tree changes in two ways only: there are new directories
at and above the output directory, and the artifacts written so far have their files
(`Changes`).

`generate_effects` says for every outcome of a round which artifacts these are.  It
holds of every store that shows a file tree, whatever makes its operations fail.
-/

namespace EventDispatch

/-! ## Writing artifacts -/

/-- What writing artifacts one after the other does to a tree.  A file holds the whole
text of the last artifact that was written to it. -/
structure Filled (tree later : FileTree) (directory : String) (written : List Artifact) :
    Prop where
  here : later.here = tree.here
  untouched : ∀ location,
    (∀ artifact ∈ written, artifact.location tree directory ≠ location) →
      later.get? location = tree.get? location
  complete : ∀ front artifact back, written = front ++ artifact :: back →
    (∀ other ∈ back, other.location tree directory ≠ artifact.location tree directory) →
      later.get? (artifact.location tree directory) = some (.file artifact.source.toUTF8)

theorem location_congr {tree later : FileTree} (hhere : later.here = tree.here)
    (directory : String) (artifact : Artifact) :
    artifact.location later directory = artifact.location tree directory :=
  FileTree.lexical_congr hhere _

theorem Filled.nil (tree : FileTree) (directory : String) : Filled tree tree directory [] where
  here := rfl
  untouched := fun _ _ => rfl
  complete := by simp

/-- One artifact more in front.  It stays complete unless a later one has its location. -/
theorem Filled.cons {tree middle later : FileTree} {directory : String} {first : Artifact}
    {rest : List Artifact}
    (hfirst : tree.Replaced middle (Path.join directory first.fileName) first.source)
    (hrest : Filled middle later directory rest) : Filled tree later directory (first :: rest) := by
  have hlocation := location_congr hfirst.here directory
  have huntouched := hrest.untouched
  have hcomplete := hrest.complete
  simp only [hlocation] at huntouched hcomplete
  refine ⟨hrest.here.trans hfirst.here, fun location hlocations => ?_, ?_⟩
  · obtain ⟨hne, hothers⟩ := List.forall_mem_cons.mp hlocations
    rw [huntouched location hothers, hfirst.get?_of_ne location (Ne.symm hne)]
  · intro front artifact back hsplit hback
    cases front with
    | nil =>
        cases hsplit
        rw [huntouched _ hback]
        exact hfirst.get?_self
    | cons other front =>
        cases hsplit
        exact hcomplete front artifact back rfl hback

section Writing

variable {σ : Type} [FileStore (StateM σ)] {tree : σ → FileTree} {directory : String}

/-- Writing stops at the first artifact that cannot be written, and those before it are
in place.  The induction is on the artifacts; the store changes from step to step. -/
theorem filled_of_writeArtifacts (hstore : FileStore.Shows tree) {artifacts : List Artifact}
    {state later : σ} {summaries : List Summary} {result : Except FileFault Unit}
    (hrun : (writeArtifacts directory artifacts : StateM σ _).run state =
      ((summaries, result), later)) :
    ∃ written, Filled (tree state) (tree later) directory written ∧
      summaries = written.map (Artifact.summary directory) ∧
      ((result = .ok () ∧ written = artifacts) ∨
        ∃ fault unwritten, result = .error fault ∧ artifacts = written ++ unwritten ∧
          unwritten ≠ []) := by
  induction artifacts generalizing state summaries with
  | nil =>
      cases hrun
      exact ⟨[], Filled.nil _ directory, rfl, .inl ⟨rfl, rfl⟩⟩
  | cons first rest ih =>
      obtain ⟨attempt, middle, hwrite, hrun⟩ := run_bind_eq hrun
      cases attempt with
      | error fault =>
          cases hrun
          have hsame := hstore.write_error hwrite
          refine ⟨[], ?_, rfl, .inr ⟨fault, first :: rest, rfl, rfl, List.cons_ne_nil _ _⟩⟩
          rw [hsame]
          exact Filled.nil _ directory
      | ok =>
          obtain ⟨⟨others, attempt⟩, last, hrest, hrun⟩ := run_bind_eq hrun
          cases hrun
          obtain ⟨written, hfilled, rfl, hend⟩ := ih hrest
          refine ⟨first :: written, hfilled.cons (hstore.write_ok hwrite), rfl, ?_⟩
          rcases hend with ⟨rfl, rfl⟩ | ⟨fault, unwritten, rfl, rfl, hunwritten⟩
          · exact .inl ⟨rfl, rfl⟩
          · exact .inr ⟨fault, unwritten, rfl, rfl, hunwritten⟩

end Writing

/-! ## A round -/

/-- What a round does to a tree when it has written some artifacts: apart from their
files there are new directories at most, each of them the output directory or one
above it. -/
structure Changes (tree later : FileTree) (directory : String) (written : List Artifact) :
    Prop where
  here : later.here = tree.here
  untouched : ∀ location,
    (∀ artifact ∈ written, artifact.location tree directory ≠ location) →
      later.get? location = tree.get? location ∨ tree.NewDirectory later directory location
  complete : ∀ front artifact back, written = front ++ artifact :: back →
    (∀ other ∈ back, other.location tree directory ≠ artifact.location tree directory) →
      later.get? (artifact.location tree directory) = some (.file artifact.source.toUTF8)

theorem Changes.of_opened {tree ready later : FileTree} {directory : String}
    {written : List Artifact} (hopened : tree.Opened ready directory)
    (hfilled : Filled ready later directory written) : Changes tree later directory written := by
  have hlocation := location_congr hopened.here directory
  have huntouched := hfilled.untouched
  have hcomplete := hfilled.complete
  simp only [hlocation] at huntouched hcomplete
  refine ⟨hfilled.here.trans hopened.here, fun location hlocations => ?_, hcomplete⟩
  rw [FileTree.NewDirectory, huntouched location hlocations]
  exact hopened.get? location

section Round

variable {σ : Type} [FileStore (StateM σ)] {tree : σ → FileTree} {directory : String}

theorem opened_of_makeReady (hstore : FileStore.Shows tree) {artifacts : List Artifact}
    {state ready : σ} {result : Except FileFault Unit}
    (hrun : (makeReady directory artifacts : StateM σ _).run state = (result, ready)) :
    (tree state).Opened (tree ready) directory ∧
      (artifacts = [] → result = .ok () ∧ ready = state) := by
  unfold makeReady at hrun
  split at hrun
  · cases hrun
    exact ⟨FileTree.Opened.refl _ directory, fun _ => ⟨rfl, rfl⟩⟩
  · rename_i hartifacts
    exact ⟨hstore.makeDirectories hrun, fun hnone => absurd (by simp [hnone]) hartifacts⟩

/-- What was prepared is written as a whole, or a proper part of it is when the store
refuses an operation. -/
theorem changes_of_writePreparation (hstore : FileStore.Shows tree) {preparation : Preparation}
    {state later : σ} {outcome : Outcome Report}
    (hrun : (writePreparation directory preparation : StateM σ _).run state = (outcome, later)) :
    (∃ fault written unwritten, outcome.result = .error (.files fault) ∧
        preparation.artifacts = written ++ unwritten ∧ unwritten ≠ [] ∧
        Changes (tree state) (tree later) directory written) ∨
      (outcome.result = .ok {
          artifacts := preparation.artifacts.map (Artifact.summary directory)
          diagnostics := preparation.diagnostics } ∧
        Changes (tree state) (tree later) directory preparation.artifacts ∧
        (preparation.artifacts = [] → later = state)) := by
  obtain ⟨made, ready, hready, hrun⟩ := run_bind_eq hrun
  obtain ⟨hopened, hnothing⟩ := opened_of_makeReady hstore hready
  cases made with
  | error fault =>
      cases hrun
      -- Without artifacts no directory is asked for, so there was one to write.
      have hsome : preparation.artifacts ≠ [] := fun hnone => by cases (hnothing hnone).1
      exact .inl ⟨fault, [], preparation.artifacts, rfl, rfl, hsome,
        .of_opened hopened (Filled.nil _ directory)⟩
  | ok =>
      obtain ⟨⟨summaries, result⟩, last, hwrite, hrun⟩ := run_bind_eq hrun
      obtain ⟨written, hfilled, rfl, hend⟩ := filled_of_writeArtifacts hstore hwrite
      rcases hend with ⟨rfl, rfl⟩ | ⟨fault, unwritten, rfl, hsplit, hunwritten⟩
      · cases hrun
        refine .inr ⟨rfl, .of_opened hopened hfilled, fun hnone => ?_⟩
        -- Neither step has asked the store for anything.
        rw [hnone] at hwrite
        cases hwrite
        exact (hnothing hnone).2
      · cases hrun
        exact .inl ⟨fault, written, unwritten, rfl, hsplit, hunwritten,
          .of_opened hopened hfilled⟩

end Round

/-! ## Main result -/

/-- A round that finds no output directory or cannot prepare its artifacts leaves the
store as it was.  One that fails on a file has written a proper part of the artifacts,
the first ones, and made directories at most.  One that succeeds has written all of
them, and reports each of them and the diagnostics; without artifacts it leaves the
store as it was.  There is no other outcome. -/
theorem generate_effects {σ : Type} [FileStore (StateM σ)] {tree : σ → FileTree}
    (hstore : FileStore.Shows tree) {generator : Generator}
    {explicit environment : Option String} {state later : σ} {outcome : Outcome Report}
    (hrun : (generator.generate explicit environment : StateM σ _).run state =
      (outcome, later)) :
    match outcome.result with
    | .error .noOutputDirectory =>
        outputDirectory? explicit environment = none ∧ later = state
    | .error (.dispatch error) =>
        generator.prepare.result = .error (.dispatch error) ∧ later = state
    | .error (.files _) =>
        ∃ directory preparation written unwritten,
          outputDirectory? explicit environment = some directory ∧
          generator.prepare.result = .ok preparation ∧
          preparation.artifacts = written ++ unwritten ∧ unwritten ≠ [] ∧
          Changes (tree state) (tree later) directory written
    | .error _ => False
    | .ok report =>
        ∃ directory preparation, outputDirectory? explicit environment = some directory ∧
          generator.prepare.result = .ok preparation ∧
          report.artifacts = preparation.artifacts.map (fun artifact => {
            declaration := artifact.declaration
            path := Path.join directory artifact.fileName
            arms := artifact.arms }) ∧
          report.diagnostics = preparation.diagnostics ∧
          Changes (tree state) (tree later) directory preparation.artifacts ∧
          (preparation.artifacts = [] → later = state) := by
  unfold Generator.generate at hrun
  split at hrun
  · rename_i hnone
    cases hrun
    exact ⟨hnone, rfl⟩
  rename_i directory hdirectory
  simp only at hrun
  split at hrun
  · rename_i failure hfailure
    cases hrun
    obtain ⟨error, rfl⟩ := exists_dispatch_of_prepare hfailure
    exact ⟨hfailure, rfl⟩
  · rename_i preparation hprepare
    obtain ⟨written, last, hwrite, hrun⟩ := run_bind_eq hrun
    cases hrun
    rcases changes_of_writePreparation hstore hwrite with
      ⟨fault, files, unwritten, hresult, hsplit, hunwritten, hchanges⟩ |
        ⟨hresult, hchanges, hnothing⟩
    · rw [hresult]
      exact ⟨directory, preparation, files, unwritten, hdirectory, hprepare, hsplit, hunwritten,
        hchanges⟩
    · rw [hresult]
      exact ⟨directory, preparation, hdirectory, hprepare, rfl, rfl, hchanges, hnothing⟩

/-- A file tree where a directory is in the way of the second artifact of `namesakes`. -/
def obstructed : FileTree where
  nodes := [
    (["work"], .directory), (["work", "out"], .directory),
    (["work", "out", "my_alert_2.rs"], .directory)]
  here := ["work"]

/-- The first artifact is written, the second one is refused, and the others are not tried. -/
theorem effects_obstructed :
    ∃ outcome later preparation written unwritten,
      (namesakes.generate (some "out") none : StateM FileTree _).run obstructed =
        (outcome, later) ∧
      outcome.result = .error (.files .isDirectory) ∧
      later.nodes.map Prod.fst =
        [["work"], ["work", "out"], ["work", "out", "my_alert_2.rs"],
          ["work", "out", "my_alert.rs"]] ∧
      namesakes.prepare.result = .ok preparation ∧
      preparation.artifacts = written ++ unwritten ∧ unwritten ≠ [] ∧
      Changes obstructed later "out" written := by
  obtain ⟨outcome, later, hrun⟩ : ∃ outcome later,
      (namesakes.generate (some "out") none : StateM FileTree _).run obstructed =
        (outcome, later) :=
    ⟨_, _, rfl⟩
  have hfault : (match ((namesakes.generate (some "out") none : StateM FileTree _).run
      obstructed).1.result with
      | .ok _ => none
      | .error failure => some failure) = some (.files .isDirectory) := by
    decide +kernel
  have hplaces : ((namesakes.generate (some "out") none : StateM FileTree _).run
      obstructed).2.nodes.map Prod.fst =
        [["work"], ["work", "out"], ["work", "out", "my_alert_2.rs"],
          ["work", "out", "my_alert.rs"]] := by
    decide +kernel
  rw [hrun] at hfault hplaces
  have hresult : outcome.result = .error (.files .isDirectory) := by
    cases houtcome : outcome.result with
    | ok report => simp [houtcome] at hfault
    | error failure =>
        simp only [houtcome, Option.some.injEq] at hfault
        rw [hfault]
  have heffects := generate_effects shows_fileTree hrun
  rw [hresult] at heffects
  obtain ⟨directory, preparation, written, unwritten, hdirectory, hprepare, hsplit, hunwritten,
    hchanges⟩ := heffects
  cases hdirectory
  exact ⟨outcome, later, preparation, written, unwritten, hrun, hresult, hplaces, hprepare, hsplit,
    hunwritten, hchanges⟩

end EventDispatch
