import EventDispatch.Generation
import EventDispatch.Proofs.Preparation

/-!
# The steps of a round

A round has four steps: it finds a directory, prepares, makes the directory ready and
writes the artifacts.  Each of them may be its last one (`Generator.Ends`), on any store.
`exists_steps_of_generate` takes a round apart that succeeds, and `run_generate_of_steps`
puts one together.  What such a round reports is told by the first two steps alone
(`Generator.successOutcome`).
-/

namespace EventDispatch

theorem exists_dispatch_of_prepare {generator : Generator} {failure : Failure}
    (hfailure : generator.prepare.result = .error failure) :
    ∃ error, failure = .dispatch error := by
  simp only [Generator.prepare] at hfailure
  split at hfailure
  · rename_i error _
    cases hfailure
    exact ⟨error, rfl⟩
  · cases hfailure

section Steps

variable {σ : Type} [FileStore (StateM σ)] {generator : Generator}
  {explicit environment : Option String} {directory : String} {preparation : Preparation}
  {state ready later : σ}

/-- Writing to the end gives the summaries of all artifacts. -/
theorem summaries_of_writeArtifacts {artifacts : List Artifact} {summaries : List Summary}
    (hrun : (writeArtifacts directory artifacts : StateM σ _).run state =
      ((summaries, .ok ()), later)) :
    summaries = artifacts.map (Artifact.summary directory) := by
  induction artifacts generalizing state summaries with
  | nil =>
      cases hrun
      rfl
  | cons first rest ih =>
      obtain ⟨attempt, middle, _, hrun⟩ := run_bind_eq hrun
      cases attempt with
      | error fault => cases hrun
      | ok =>
          obtain ⟨⟨others, result⟩, last, hrest, hrun⟩ := run_bind_eq hrun
          cases hrun
          rw [ih hrest, List.map_cons]

/-- The outcome of a round that has written what was prepared. -/
def Generator.successOutcome (generator : Generator) (directory : String)
    (preparation : Preparation) : Outcome Report where
  records := generator.prepare.records ++
    (preparation.artifacts.map (Artifact.summary directory)).map Summary.record
  result := .ok {
    artifacts := preparation.artifacts.map (Artifact.summary directory)
    diagnostics := preparation.diagnostics }

/-- The ways in which a round ends: for want of a directory, for want of a preparation, on
making the directory, on writing an artifact, or with everything written. -/
inductive Generator.Ends (generator : Generator) (explicit environment : Option String)
    (state : σ) : Outcome Report → σ → Prop
  | homeless (hdirectory : outputDirectory? explicit environment = none) :
      generator.Ends explicit environment state
        { records := [Failure.outputDiagnostic.record], result := .error .noOutputDirectory } state
  | unprepared {directory : String} {error : DispatchError}
      (hdirectory : outputDirectory? explicit environment = some directory)
      (hprepare : generator.prepare.result = .error (.dispatch error)) :
      generator.Ends explicit environment state
        { records := generator.prepare.records, result := .error (.dispatch error) } state
  | unready {directory : String} {preparation : Preparation} {fault : FileFault} {later : σ}
      (hdirectory : outputDirectory? explicit environment = some directory)
      (hprepare : generator.prepare.result = .ok preparation)
      (hready : (makeReady directory preparation.artifacts : StateM σ _).run state =
        (.error fault, later)) :
      generator.Ends explicit environment state
        { records := generator.prepare.records ++ [], result := .error (.files fault) } later
  | unwritten {directory : String} {preparation : Preparation} {fault : FileFault}
      {summaries : List Summary} {ready later : σ}
      (hdirectory : outputDirectory? explicit environment = some directory)
      (hprepare : generator.prepare.result = .ok preparation)
      (hready : (makeReady directory preparation.artifacts : StateM σ _).run state =
        (.ok (), ready))
      (hwrite : (writeArtifacts directory preparation.artifacts : StateM σ _).run ready =
        ((summaries, .error fault), later)) :
      generator.Ends explicit environment state
        { records := generator.prepare.records ++ summaries.map Summary.record
          result := .error (.files fault) } later
  | written {directory : String} {preparation : Preparation} {ready later : σ}
      (hdirectory : outputDirectory? explicit environment = some directory)
      (hprepare : generator.prepare.result = .ok preparation)
      (hready : (makeReady directory preparation.artifacts : StateM σ _).run state =
        (.ok (), ready))
      (hwrite : (writeArtifacts directory preparation.artifacts : StateM σ _).run ready =
        ((preparation.artifacts.map (Artifact.summary directory), .ok ()), later)) :
      generator.Ends explicit environment state
        (generator.successOutcome directory preparation) later

theorem ends_of_generate {outcome : Outcome Report}
    (hrun : (generator.generate explicit environment : StateM σ _).run state = (outcome, later)) :
    generator.Ends explicit environment state outcome later := by
  unfold Generator.generate at hrun
  split at hrun
  · rename_i hnone
    cases hrun
    exact .homeless hnone
  rename_i directory hdirectory
  simp only at hrun
  split at hrun
  · rename_i failure hfailure
    cases hrun
    obtain ⟨error, rfl⟩ := exists_dispatch_of_prepare hfailure
    exact .unprepared hdirectory hfailure
  rename_i preparation hprepare
  obtain ⟨written, last, hwrite, hrun⟩ := run_bind_eq hrun
  cases hrun
  obtain ⟨made, ready, hready, hwrite⟩ := run_bind_eq hwrite
  cases made with
  | error fault =>
      cases hwrite
      exact .unready hdirectory hprepare hready
  | ok =>
      obtain ⟨⟨summaries, result⟩, last, hartifacts, hwrite⟩ := run_bind_eq hwrite
      cases result with
      | error fault =>
          cases hwrite
          exact .unwritten hdirectory hprepare hready hartifacts
      | ok =>
          cases hwrite
          obtain rfl := summaries_of_writeArtifacts hartifacts
          exact .written hdirectory hprepare hready hartifacts

theorem exists_steps_of_generate {outcome : Outcome Report} {report : Report}
    (hrun : (generator.generate explicit environment : StateM σ _).run state = (outcome, later))
    (hreport : outcome.result = .ok report) :
    ∃ directory preparation ready, outputDirectory? explicit environment = some directory ∧
      generator.prepare.result = .ok preparation ∧
      (makeReady directory preparation.artifacts : StateM σ _).run state = (.ok (), ready) ∧
      (writeArtifacts directory preparation.artifacts : StateM σ _).run ready =
        ((preparation.artifacts.map (Artifact.summary directory), .ok ()), later) ∧
      outcome = generator.successOutcome directory preparation := by
  cases ends_of_generate hrun with
  | homeless => cases hreport
  | unprepared => cases hreport
  | unready => cases hreport
  | unwritten => cases hreport
  | written hdirectory hprepare hready hwrite =>
      exact ⟨_, _, _, hdirectory, hprepare, hready, hwrite, rfl⟩

theorem run_generate_of_steps (hdirectory : outputDirectory? explicit environment = some directory)
    (hprepare : generator.prepare.result = .ok preparation)
    (hready : (makeReady directory preparation.artifacts : StateM σ _).run state = (.ok (), ready))
    (hwrite : (writeArtifacts directory preparation.artifacts : StateM σ _).run ready =
      ((preparation.artifacts.map (Artifact.summary directory), .ok ()), later)) :
    (generator.generate explicit environment : StateM σ _).run state =
      (generator.successOutcome directory preparation, later) := by
  have hpreparation : (writePreparation directory preparation : StateM σ _).run state =
      ({ records := (preparation.artifacts.map (Artifact.summary directory)).map Summary.record
         result := .ok {
          artifacts := preparation.artifacts.map (Artifact.summary directory)
          diagnostics := preparation.diagnostics } }, later) := by
    unfold writePreparation
    rw [StateT.run_bind, hready]
    change (writeArtifacts directory preparation.artifacts >>= _ : StateM σ _).run ready = _
    rw [StateT.run_bind, hwrite]
    rfl
  unfold Generator.generate
  rw [hdirectory]
  simp only [hprepare]
  rw [StateT.run_bind, hpreparation]
  rfl

end Steps

end EventDispatch
