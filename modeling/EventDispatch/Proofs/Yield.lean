import EventDispatch.Proofs.Preparation

/-!
# Declarations without events leave no trace in the artifacts

A round reads its artifacts off the accepted declarations, and a declaration
without an event hands on the names taken so far as it got them.  So two tables
that have the same declarations with events, in the same order, whatever lies
between them, are given the same artifacts, or fail with the same error
(`artifacts_eq_of_yielding_eq`).

Both tables are compared with the list of their declarations with events alone,
which they share (`prepareArtifacts_accepted`); neither is compared with the
other.
-/

namespace EventDispatch

/-- The declaration is a marked plain set with at least one event. -/
def Declaration.Yields (marker : String) (declaration : Declaration) : Prop :=
  marker ∈ declaration.markers ∧ declaration.IsPlainSet ∧
    ∃ member ∈ declaration.members, declaration.lists member = true

instance Declaration.decidableYields (marker : String) (declaration : Declaration) :
    Decidable (declaration.Yields marker) :=
  inferInstanceAs (Decidable (marker ∈ declaration.markers ∧
    (declaration.kind = .enum ∧ declaration.modality = .closed ∧ declaration.generic = false) ∧
      ∃ member ∈ declaration.members, declaration.lists member = true))

/-- The declarations with events, in table order. -/
def Table.yielding (table : Table) (marker : String) : List Declaration :=
  table.toList.filter fun declaration => declaration.Yields marker

section Steps

variable {settings : Settings} {declaration : Declaration}

theorem Declaration.yields_iff {marker : String} : declaration.Yields marker ↔
    declaration.verdict marker = .accepted ∧ declaration.eventSet? ≠ none := by
  rw [Declaration.verdict_eq_accepted_iff, Ne, Declaration.eventSet?_eq_none_iff,
    Declaration.Yields, and_assoc]
  simp

theorem Table.yielding_cons (marker : String) (rest : List Declaration) :
    (Table.mk (declaration :: rest)).yielding marker =
      if declaration.Yields marker then declaration :: (Table.mk rest).yielding marker
      else (Table.mk rest).yielding marker := by
  simp [yielding, List.filter_cons]

/-- A step takes a name or fails, whatever comes behind it, so equal outcomes behind it
make equal outcomes. -/
theorem prepareArtifacts_cons_congr {first second : List Declaration}
    (hrest : ∀ taken, prepareArtifacts settings taken first =
      prepareArtifacts settings taken second)
    (taken : List String) :
    prepareArtifacts settings taken (declaration :: first) =
      prepareArtifacts settings taken (declaration :: second) := by
  cases hset : declaration.eventSet? with
  | none =>
      rw [prepareArtifacts_cons_of_none hset, prepareArtifacts_cons_of_none hset]
      exact hrest taken
  | some set =>
      cases hartifact : set.artifact settings with
      | error error =>
          rw [prepareArtifacts_cons_of_error hset hartifact,
            prepareArtifacts_cons_of_error hset hartifact]
      | ok emitted =>
          rw [prepareArtifacts_cons_of_ok hset hartifact,
            prepareArtifacts_cons_of_ok hset hartifact, hrest]

end Steps

/-- A round is prepared as if the table had only the declarations with events.  The
induction is on the table, for all names taken before. -/
theorem prepareArtifacts_accepted (settings : Settings) (declarations : List Declaration) :
    ∀ taken, prepareArtifacts settings taken ((Table.mk declarations).accepted settings.marker) =
      prepareArtifacts settings taken ((Table.mk declarations).yielding settings.marker) := by
  induction declarations with
  | nil => exact fun _ => rfl
  | cons declaration rest ih =>
      intro taken
      rw [Table.yielding_cons]
      by_cases haccepted : declaration.verdict settings.marker = .accepted
      · rw [Table.accepted_cons_of_accepted haccepted]
        cases hset : declaration.eventSet? with
        | none =>
            have hempty : ¬ declaration.Yields settings.marker := fun hyields =>
              (Declaration.yields_iff.mp hyields).2 hset
            rw [if_neg hempty, prepareArtifacts_cons_of_none hset, ih]
        | some set =>
            have hyields : declaration.Yields settings.marker :=
              Declaration.yields_iff.mpr ⟨haccepted, by simp [hset]⟩
            rw [if_pos hyields]
            exact prepareArtifacts_cons_congr ih taken
      · have hleft : ¬ declaration.Yields settings.marker := fun hyields =>
          haccepted (Declaration.yields_iff.mp hyields).1
        rw [Table.accepted_cons_of_ne haccepted, if_neg hleft, ih]

/-- The artifacts of a round, or its error, are those of the declarations with events. -/
theorem prepare_artifacts_eq (generator : Generator) :
    generator.prepare.result.map Preparation.artifacts =
      (prepareArtifacts generator.settings []
        (generator.table.yielding generator.settings.marker)).mapError .dispatch := by
  have haccepted := prepareArtifacts_accepted generator.settings generator.table.toList []
  simp only [Generator.prepare]
  rw [haccepted]
  cases prepareArtifacts generator.settings []
      ((Table.mk generator.table.toList).yielding generator.settings.marker) with
  | error error => rfl
  | ok artifacts => rfl

/-- Two generators with the same settings whose tables have the same declarations with
events prepare the same artifacts, or fail with the same error. -/
theorem artifacts_eq_of_yielding_eq {first second : Generator}
    (hsettings : first.settings = second.settings)
    (hyielding : first.table.yielding first.settings.marker =
      second.table.yielding second.settings.marker) :
    first.prepare.result.map Preparation.artifacts =
      second.prepare.result.map Preparation.artifacts := by
  rw [prepare_artifacts_eq, prepare_artifacts_eq, hyielding, hsettings]

/-- A generator that has read nothing but the one declaration with events. -/
def purist : Generator :=
  { sampler with table := ⟨[gestures]⟩ }

/-- What was read besides, left unmarked, rejected or found empty, does not show. -/
theorem artifacts_purist :
    sampler.settings = purist.settings ∧
      sampler.table.yielding sampler.settings.marker =
        purist.table.yielding purist.settings.marker ∧
      sampler.table ≠ purist.table ∧
      sampler.prepare.result.map Preparation.artifacts =
        purist.prepare.result.map Preparation.artifacts := by
  have hyielding : sampler.table.yielding sampler.settings.marker =
      purist.table.yielding purist.settings.marker := by
    decide +kernel
  exact ⟨rfl, hyielding, by decide, artifacts_eq_of_yielding_eq rfl hyielding⟩

end EventDispatch
