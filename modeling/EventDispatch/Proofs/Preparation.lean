import EventDispatch.Preparation
import EventDispatch.Proofs.Dispatch
import EventDispatch.Proofs.Selection

/-!
# A round accounts for every marked declaration once

A declaration meets one of four fates (`Fate`): it is not marked, it is
rejected with a warning, it is accepted but has no event and gets a warning
after those about its members, or an artifact is generated for it.  `Meets`
says by the marker, the kind, the modality, the generic parameters and the
members of a declaration which of the four it is.

The three passes of a round append to one list of diagnostics and one list of
artifacts.  `Traces` says that both lists are read off some fates; it goes on by
one declaration of each kind, so that every declaration of a table has its fate
(`exists_fates`) and the round is read off them (`prepare_accounts`).  Where the code of a
set cannot be generated, the first such declaration in the table decides the outcome
(`prepareArtifacts_of_failure`).
-/

namespace EventDispatch

/-! ## Fates -/

/-- What becomes of a declaration in a round, with the diagnostics about it. -/
inductive Fate where
  | unmarked
  | rejected (warning : Diagnostic)
  | empty (members : List Diagnostic) (warning : Diagnostic)
  | generated (members : List Diagnostic) (artifact : Artifact)

namespace Fate

/-- The artifact, if there is one. -/
def artifact? : Fate → Option Artifact
  | generated _ artifact => some artifact
  | _ => none

/-- The warning of the selection, if the declaration is rejected. -/
def rejection? : Fate → Option Diagnostic
  | rejected warning => some warning
  | _ => none

/-- The warning that there is no event, if the declaration is accepted in vain. -/
def emptiness? : Fate → Option Diagnostic
  | empty _ warning => some warning
  | _ => none

/-- The warnings about an accepted declaration: those about its members in member
order, then the one about itself. -/
def eventWarnings : Fate → List Diagnostic
  | empty members warning => members ++ [warning]
  | generated members _ => members
  | _ => []

end Fate

/-- The warning that no member of the declaration is an event. -/
def Declaration.emptinessWarning (declaration : Declaration) : Diagnostic :=
  .warning declaration.path (some declaration.origin.describe)
    s!"`{declaration.path}` has no valid variants, skipping"

/-- The fate of a declaration under some settings, told by the declaration itself.
Of an artifact the file name is left open. -/
inductive Meets (settings : Settings) (declaration : Declaration) : Fate → Prop
  | unmarked (hmarker : settings.marker ∉ declaration.markers) : Meets settings declaration .unmarked
  | rejected {reason : Rejection} (hmarker : settings.marker ∈ declaration.markers)
      (hreason : reason.Applies declaration) :
      Meets settings declaration (.rejected (declaration.rejectionWarning reason))
  | empty (hmarker : settings.marker ∈ declaration.markers) (hplain : declaration.IsPlainSet)
      (hmembers : ∀ member ∈ declaration.members, declaration.lists member = false) :
      Meets settings declaration
        (.empty (declaration.members.filterMap declaration.memberWarning?)
          declaration.emptinessWarning)
  | generated {set : EventSet} {emitted artifact : Artifact}
      (hmarker : settings.marker ∈ declaration.markers) (hplain : declaration.IsPlainSet)
      (hset : declaration.eventSet? = some set)
      (hemitted : set.artifact settings = .ok emitted)
      (hdeclaration : artifact.declaration = declaration.path)
      (harms : artifact.arms = emitted.arms) (hsource : artifact.source = emitted.source) :
      Meets settings declaration
        (.generated (declaration.members.filterMap declaration.memberWarning?) artifact)

/-- Code can be generated for the declaration, should it be accepted with events. -/
def Declaration.Emits (settings : Settings) (declaration : Declaration) : Prop :=
  declaration.verdict settings.marker = .accepted →
    ∀ set, declaration.eventSet? = some set → ∃ artifact, set.artifact settings = .ok artifact

/-! ## One declaration -/

section One

variable {declaration : Declaration} {settings : Settings}

theorem eventSetWarnings_of_none (hset : declaration.eventSet? = none) :
    declaration.eventSetWarnings =
      declaration.members.filterMap declaration.memberWarning? ++
        [declaration.emptinessWarning] := by
  have hvariants : declaration.variants = [] :=
    Declaration.variants_eq_nil_iff.mpr (Declaration.eventSet?_eq_none_iff.mp hset)
  simp [Declaration.eventSetWarnings, Declaration.emptyWarning?, hvariants,
    Declaration.emptinessWarning]

theorem eventSetWarnings_of_some {set : EventSet} (hset : declaration.eventSet? = some set) :
    declaration.eventSetWarnings =
      declaration.members.filterMap declaration.memberWarning? := by
  have hvariants := (Declaration.eventSet?_eq_some_iff.mp hset).1
  simp [Declaration.eventSetWarnings, Declaration.emptyWarning?, hvariants]

theorem declaration_of_artifact {set : EventSet} {artifact : Artifact}
    (hset : declaration.eventSet? = some set) (hartifact : set.artifact settings = .ok artifact) :
    artifact.declaration = declaration.path := by
  obtain ⟨_, rfl⟩ := Declaration.eventSet?_eq_some_iff.mp hset
  obtain ⟨dispatch, _, hresult⟩ := bind_eq_ok_iff.mp hartifact
  cases hresult
  rfl

theorem declaration_of_error {set : EventSet} {error : DispatchError}
    (hset : declaration.eventSet? = some set) (herror : set.artifact settings = .error error) :
    error.declaration = declaration.path := by
  obtain ⟨_, rfl⟩ := Declaration.eventSet?_eq_some_iff.mp hset
  have hdispatch := bind_eq_error_iff.mp herror
  rcases hdispatch with hdispatch | ⟨dispatch, _, hresult⟩
  · obtain ⟨fault, _, rfl⟩ := mapError_eq_error_iff.mp hdispatch
    rfl
  · cases hresult

/-- Settling a name changes nothing else about an artifact. -/
theorem settle_keeps (taken : List String) (artifact : Artifact) :
    (artifact.settle taken).declaration = artifact.declaration ∧
      (artifact.settle taken).arms = artifact.arms ∧
      (artifact.settle taken).source = artifact.source := by
  unfold Artifact.settle
  split
  · exact ⟨rfl, rfl, rfl⟩
  · exact ⟨rfl, rfl, rfl⟩

end One

/-! ## One step of the loop -/

section Step

variable {settings : Settings} {taken : List String} {declaration : Declaration}
  {rest : List Declaration} {set : EventSet}

theorem prepareArtifacts_cons_of_none (hset : declaration.eventSet? = none) :
    prepareArtifacts settings taken (declaration :: rest) =
      prepareArtifacts settings taken rest := by
  simp [prepareArtifacts, hset]

theorem prepareArtifacts_cons_of_ok {emitted : Artifact}
    (hset : declaration.eventSet? = some set) (hemitted : set.artifact settings = .ok emitted) :
    prepareArtifacts settings taken (declaration :: rest) =
      (prepareArtifacts settings ((emitted.settle taken).fileName :: taken) rest).map
        (emitted.settle taken :: ·) := by
  simp only [prepareArtifacts, hset, hemitted]
  rfl

theorem prepareArtifacts_cons_of_error {error : DispatchError}
    (hset : declaration.eventSet? = some set) (herror : set.artifact settings = .error error) :
    prepareArtifacts settings taken (declaration :: rest) = .error error := by
  simp only [prepareArtifacts, hset, herror]
  rfl

end Step

/-- A round is prepared when the artifacts of the accepted declarations are. -/
theorem prepare_eq_ok_iff {generator : Generator} {preparation : Preparation} :
    generator.prepare.result = .ok preparation ↔
      prepareArtifacts generator.settings []
          (generator.table.accepted generator.settings.marker) = .ok preparation.artifacts ∧
        preparation.diagnostics = generator.table.diagnostics generator.settings.marker := by
  simp only [Generator.prepare]
  cases prepareArtifacts generator.settings []
      (generator.table.accepted generator.settings.marker) with
  | error error => simp
  | ok artifacts =>
      obtain ⟨found, diagnostics⟩ := preparation
      simp [eq_comm]

/-! ## The whole table -/

/-- The three passes of a round over the declarations leave behind what the fates say,
when some file names are taken before. -/
structure Traces (settings : Settings) (taken : List String) (declarations : List Declaration)
    (fates : List Fate) : Prop where
  meets : List.Forall₂ (Meets settings) declarations fates
  artifacts : prepareArtifacts settings taken ((Table.mk declarations).accepted settings.marker) =
    .ok (fates.filterMap Fate.artifact?)
  rejections : (Table.mk declarations).selectionWarnings settings.marker =
    fates.filterMap Fate.rejection?
  warnings : ((Table.mk declarations).accepted settings.marker).flatMap
    Declaration.eventSetWarnings = fates.flatMap Fate.eventWarnings

namespace Traces

variable {settings : Settings} {taken : List String} {declaration : Declaration}
  {rest : List Declaration} {fates : List Fate}

theorem unmarked (htraces : Traces settings taken rest fates)
    (hverdict : declaration.verdict settings.marker = .unmarked) :
    Traces settings taken (declaration :: rest) (.unmarked :: fates) where
  meets := .cons (.unmarked (Declaration.verdict_eq_unmarked_iff.mp hverdict)) htraces.meets
  artifacts := by
    rw [Table.accepted_cons_of_ne (by simp [hverdict])]
    exact htraces.artifacts
  rejections := by
    rw [Table.selectionWarnings_cons_of_ne (by simp [hverdict])]
    exact htraces.rejections
  warnings := by
    rw [Table.accepted_cons_of_ne (by simp [hverdict])]
    exact htraces.warnings

theorem rejected {reason : Rejection} (htraces : Traces settings taken rest fates)
    (hverdict : declaration.verdict settings.marker = .rejected reason) :
    Traces settings taken (declaration :: rest)
      (.rejected (declaration.rejectionWarning reason) :: fates) where
  meets := by
    obtain ⟨hmarker, hreason⟩ := Declaration.verdict_eq_rejected_iff.mp hverdict
    exact .cons (.rejected hmarker hreason) htraces.meets
  artifacts := by
    rw [Table.accepted_cons_of_ne (by simp [hverdict])]
    exact htraces.artifacts
  rejections := by
    rw [Table.selectionWarnings_cons_of_rejected hverdict, htraces.rejections]
    rfl
  warnings := by
    rw [Table.accepted_cons_of_ne (by simp [hverdict])]
    exact htraces.warnings

theorem empty (htraces : Traces settings taken rest fates)
    (hverdict : declaration.verdict settings.marker = .accepted)
    (hset : declaration.eventSet? = none) :
    Traces settings taken (declaration :: rest)
      (.empty (declaration.members.filterMap declaration.memberWarning?)
        declaration.emptinessWarning :: fates) where
  meets := by
    obtain ⟨hmarker, hplain⟩ := Declaration.verdict_eq_accepted_iff.mp hverdict
    exact .cons (.empty hmarker hplain (Declaration.eventSet?_eq_none_iff.mp hset)) htraces.meets
  artifacts := by
    rw [Table.accepted_cons_of_accepted hverdict, prepareArtifacts_cons_of_none hset]
    exact htraces.artifacts
  rejections := by
    rw [Table.selectionWarnings_cons_of_ne (by simp [hverdict])]
    exact htraces.rejections
  warnings := by
    rw [Table.accepted_cons_of_accepted hverdict, List.flatMap_cons,
      eventSetWarnings_of_none hset, htraces.warnings]
    rfl

/-- The passes go on with the name of the artifact taken too. -/
theorem generated {set : EventSet} {emitted : Artifact}
    (hverdict : declaration.verdict settings.marker = .accepted)
    (hset : declaration.eventSet? = some set) (hemitted : set.artifact settings = .ok emitted)
    (htraces : Traces settings ((emitted.settle taken).fileName :: taken) rest fates) :
    Traces settings taken (declaration :: rest)
      (.generated (declaration.members.filterMap declaration.memberWarning?)
        (emitted.settle taken) :: fates) where
  meets := by
    obtain ⟨hmarker, hplain⟩ := Declaration.verdict_eq_accepted_iff.mp hverdict
    obtain ⟨hdeclaration, harms, hsource⟩ := settle_keeps taken emitted
    exact .cons (.generated hmarker hplain hset hemitted
      (hdeclaration.trans (declaration_of_artifact hset hemitted)) harms hsource) htraces.meets
  artifacts := by
    rw [Table.accepted_cons_of_accepted hverdict, prepareArtifacts_cons_of_ok hset hemitted,
      htraces.artifacts]
    rfl
  rejections := by
    rw [Table.selectionWarnings_cons_of_ne (by simp [hverdict])]
    exact htraces.rejections
  warnings := by
    rw [Table.accepted_cons_of_accepted hverdict, List.flatMap_cons,
      eventSetWarnings_of_some hset, htraces.warnings]
    rfl

end Traces

/-- Following the three passes along a table on which code can be generated gives
every declaration a fate.  The induction is on the table; the names taken so far
change from step to step and are arbitrary. -/
theorem exists_fates (settings : Settings) :
    ∀ (declarations : List Declaration) (taken : List String),
      (∀ declaration ∈ declarations, declaration.Emits settings) →
      ∃ fates, Traces settings taken declarations fates := by
  intro declarations
  induction declarations with
  | nil =>
      intro taken _
      exact ⟨[], .nil, rfl, rfl, rfl⟩
  | cons declaration rest ih =>
      intro taken hemits
      have hrest : ∀ other ∈ rest, other.Emits settings := fun other hother =>
        hemits other (List.mem_cons_of_mem declaration hother)
      cases hverdict : declaration.verdict settings.marker with
      | unmarked =>
          obtain ⟨fates, htraces⟩ := ih taken hrest
          exact ⟨_, htraces.unmarked hverdict⟩
      | rejected reason =>
          obtain ⟨fates, htraces⟩ := ih taken hrest
          exact ⟨_, htraces.rejected hverdict⟩
      | accepted =>
          cases hset : declaration.eventSet? with
          | none =>
              obtain ⟨fates, htraces⟩ := ih taken hrest
              exact ⟨_, htraces.empty hverdict hset⟩
          | some set =>
              -- The rest is prepared with one more name taken, hence the arbitrary names.
              obtain ⟨emitted, hemitted⟩ :=
                hemits declaration List.mem_cons_self hverdict set hset
              obtain ⟨fates, htraces⟩ := ih ((emitted.settle taken).fileName :: taken) hrest
              exact ⟨_, .generated hverdict hset hemitted htraces⟩

/-- If code can be generated for the declarations before one, but not for that one,
its error is the outcome. -/
theorem prepareArtifacts_of_failure {settings : Settings} {declaration : Declaration}
    {set : EventSet} {error : DispatchError} (after : List Declaration)
    (haccepted : declaration.verdict settings.marker = .accepted)
    (hset : declaration.eventSet? = some set) (herror : set.artifact settings = .error error) :
    ∀ (before : List Declaration) (taken : List String),
      (∀ earlier ∈ before, earlier.Emits settings) →
      prepareArtifacts settings taken
        ((Table.mk (before ++ declaration :: after)).accepted settings.marker) = .error error := by
  intro before
  induction before with
  | nil =>
      intro taken _
      rw [List.nil_append, Table.accepted_cons_of_accepted haccepted]
      exact prepareArtifacts_cons_of_error hset herror
  | cons earlier others ih =>
      intro taken hemits
      have hothers : ∀ other ∈ others, other.Emits settings := fun other hother =>
        hemits other (List.mem_cons_of_mem earlier hother)
      rw [List.cons_append]
      -- Only an accepted declaration takes part; whatever it takes, the error stays the same.
      by_cases hearlier : earlier.verdict settings.marker = .accepted
      · rw [Table.accepted_cons_of_accepted hearlier]
        cases hevents : earlier.eventSet? with
        | none =>
            rw [prepareArtifacts_cons_of_none hevents]
            exact ih taken hothers
        | some events =>
            obtain ⟨emitted, hemitted⟩ := hemits earlier List.mem_cons_self hearlier events hevents
            rw [prepareArtifacts_cons_of_ok hevents hemitted, ih _ hothers]
            rfl
      · rw [Table.accepted_cons_of_ne hearlier]
        exact ih taken hothers

/-- A list on which code cannot be generated throughout has a first declaration for
which it cannot. -/
theorem exists_first_failure {settings : Settings} {declarations : List Declaration}
    (hfails : ¬ ∀ declaration ∈ declarations, declaration.Emits settings) :
    ∃ before declaration after set error, declarations = before ++ declaration :: after ∧
      (∀ earlier ∈ before, earlier.Emits settings) ∧
      declaration.verdict settings.marker = .accepted ∧
      declaration.eventSet? = some set ∧ set.artifact settings = .error error := by
  induction declarations with
  | nil => exact absurd (by simp) hfails
  | cons declaration rest ih =>
      by_cases hemits : declaration.Emits settings
      · have hrest : ¬ ∀ other ∈ rest, other.Emits settings := fun hall =>
          hfails (List.forall_mem_cons.mpr ⟨hemits, hall⟩)
        obtain ⟨before, failing, after, set, error, rfl, hbefore, hfailing⟩ := ih hrest
        exact ⟨declaration :: before, failing, after, set, error, rfl,
          List.forall_mem_cons.mpr ⟨hemits, hbefore⟩, hfailing⟩
      · unfold Declaration.Emits at hemits
        push Not at hemits
        obtain ⟨haccepted, set, hset, hnone⟩ := hemits
        cases hartifact : set.artifact settings with
        | ok artifact => exact absurd hartifact (hnone artifact)
        | error error =>
            exact ⟨[], declaration, rest, set, error, rfl, by simp, haccepted, hset, hartifact⟩

/-- A round is prepared when code can be generated for every declaration that needs it. -/
theorem exists_preparation_iff {generator : Generator} :
    (∃ preparation, generator.prepare.result = .ok preparation) ↔
      ∀ declaration ∈ generator.table.toList, declaration.Emits generator.settings := by
  constructor
  · rintro ⟨preparation, hprepare⟩
    by_contra hfails
    obtain ⟨before, declaration, after, set, error, htable, hbefore, haccepted, hset, herror⟩ :=
      exists_first_failure hfails
    have hfailure := prepareArtifacts_of_failure after haccepted hset herror before [] hbefore
    rw [← htable, (prepare_eq_ok_iff.mp hprepare).1] at hfailure
    cases hfailure
  · intro hemits
    obtain ⟨fates, _, hartifacts, _⟩ :=
      exists_fates generator.settings generator.table.toList [] hemits
    exact ⟨⟨fates.filterMap Fate.artifact?,
      generator.table.diagnostics generator.settings.marker⟩,
      prepare_eq_ok_iff.mpr ⟨hartifacts, rfl⟩⟩

/-! ## What the fates say together -/

section Fates

variable {settings : Settings} {declaration : Declaration} {fate : Fate}

/-- A marked declaration is counted once: as rejected, as empty, or with its artifact. -/
theorem length_marked_eq {declarations : List Declaration} {fates : List Fate}
    (hmeets : List.Forall₂ (Meets settings) declarations fates) :
    ((Table.mk declarations).marked settings.marker).length =
      (fates.filterMap Fate.artifact?).length + (fates.filterMap Fate.rejection?).length +
        (fates.filterMap Fate.emptiness?).length := by
  induction hmeets with
  | nil => rfl
  | cons hmeet _ ih =>
      cases hmeet with
      | unmarked hmarker =>
          rw [Table.marked_cons_of_notMem hmarker, ih]
          rfl
      | rejected hmarker | empty hmarker | generated hmarker =>
          rw [Table.marked_cons_of_mem hmarker, List.length_cons, ih]
          simp only [List.filterMap_cons, Fate.artifact?, Fate.rejection?, Fate.emptiness?,
            List.length_cons]
          omega

/-- The diagnostic is a warning about something. -/
def Diagnostic.IsWarning (diagnostic : Diagnostic) : Prop :=
  diagnostic.severity = .warning ∧ diagnostic.subject ≠ none

theorem isWarning_of_memberWarning? {member : Member} {diagnostic : Diagnostic}
    (hwarning : declaration.memberWarning? member = some diagnostic) : diagnostic.IsWarning := by
  unfold Declaration.memberWarning? at hwarning
  split at hwarning <;> cases hwarning
  · exact ⟨rfl, nofun⟩
  · exact ⟨rfl, nofun⟩

theorem isWarning_of_mem_eventWarnings {diagnostic : Diagnostic}
    (hmeets : Meets settings declaration fate) (hmem : diagnostic ∈ fate.eventWarnings) :
    diagnostic.IsWarning := by
  have hmembers : ∀ warning ∈ declaration.members.filterMap declaration.memberWarning?,
      warning.IsWarning := by
    intro warning hwarning
    obtain ⟨member, _, hmember⟩ := List.mem_filterMap.mp hwarning
    exact isWarning_of_memberWarning? hmember
  cases hmeets with
  | unmarked => cases hmem
  | rejected => cases hmem
  | empty =>
      rcases List.mem_append.mp hmem with hmem | hmem
      · exact hmembers diagnostic hmem
      · rw [List.mem_singleton.mp hmem]
        exact ⟨rfl, nofun⟩
  | generated => exact hmembers diagnostic hmem

theorem isWarning_of_rejection? {diagnostic : Diagnostic} (hmeets : Meets settings declaration fate)
    (hrejection : fate.rejection? = some diagnostic) : diagnostic.IsWarning := by
  cases hmeets with
  | rejected =>
      cases hrejection
      exact ⟨rfl, nofun⟩
  | unmarked => cases hrejection
  | empty => cases hrejection
  | generated => cases hrejection

/-- All diagnostics read off the fates of declarations are warnings about something. -/
theorem isWarning_of_mem {declarations : List Declaration} {fates : List Fate}
    (hmeets : List.Forall₂ (Meets settings) declarations fates) {diagnostic : Diagnostic}
    (hmem : diagnostic ∈ fates.filterMap Fate.rejection? ++ fates.flatMap Fate.eventWarnings) :
    diagnostic.IsWarning := by
  rcases List.mem_append.mp hmem with hmem | hmem
  · obtain ⟨fate, hfate, hrejection⟩ := List.mem_filterMap.mp hmem
    obtain ⟨declaration, _, hmeet⟩ := exists_rel_of_mem hmeets hfate
    exact isWarning_of_rejection? hmeet hrejection
  · obtain ⟨fate, hfate, hwarning⟩ := List.mem_flatMap.mp hmem
    obtain ⟨declaration, _, hmeet⟩ := exists_rel_of_mem hmeets hfate
    exact isWarning_of_mem_eventWarnings hmeet hwarning

end Fates

/-! ## Declarations without the marker -/

section Unmarked

variable (declarations : List Declaration) (marker : String)

theorem accepted_marked :
    (Table.mk ((Table.mk declarations).marked marker)).accepted marker =
      (Table.mk declarations).accepted marker := by
  induction declarations with
  | nil => rfl
  | cons declaration rest ih =>
      by_cases hmarker : marker ∈ declaration.markers
      · rw [Table.marked_cons_of_mem hmarker]
        by_cases haccepted : declaration.verdict marker = .accepted
        · rw [Table.accepted_cons_of_accepted haccepted, Table.accepted_cons_of_accepted haccepted,
            ih]
        · rw [Table.accepted_cons_of_ne haccepted, Table.accepted_cons_of_ne haccepted, ih]
      · have hverdict := Declaration.verdict_eq_unmarked_iff.mpr hmarker
        rw [Table.marked_cons_of_notMem hmarker, ih,
          Table.accepted_cons_of_ne (by simp [hverdict])]

theorem selectionWarnings_marked :
    (Table.mk ((Table.mk declarations).marked marker)).selectionWarnings marker =
      (Table.mk declarations).selectionWarnings marker := by
  induction declarations with
  | nil => rfl
  | cons declaration rest ih =>
      by_cases hmarker : marker ∈ declaration.markers
      · rw [Table.marked_cons_of_mem hmarker]
        by_cases hrejected : ∃ reason, declaration.verdict marker = .rejected reason
        · obtain ⟨reason, hreason⟩ := hrejected
          rw [Table.selectionWarnings_cons_of_rejected hreason,
            Table.selectionWarnings_cons_of_rejected hreason, ih]
        · rw [Table.selectionWarnings_cons_of_ne (not_exists.mp hrejected),
            Table.selectionWarnings_cons_of_ne (not_exists.mp hrejected), ih]
      · have hverdict := Declaration.verdict_eq_unmarked_iff.mpr hmarker
        rw [Table.marked_cons_of_notMem hmarker, ih,
          Table.selectionWarnings_cons_of_ne (by simp [hverdict])]

/-- Only the marked declarations of a table decide what a round would write. -/
theorem prepare_result_congr {generator other : Generator}
    (hsettings : other.settings = generator.settings)
    (hmarked : other.table.marked generator.settings.marker =
      generator.table.marked generator.settings.marker) :
    other.prepare.result = generator.prepare.result := by
  have haccepted : other.table.accepted generator.settings.marker =
      generator.table.accepted generator.settings.marker := by
    rw [← accepted_marked other.table.toList, ← accepted_marked generator.table.toList]
    exact congrArg (fun marked => (Table.mk marked).accepted generator.settings.marker) hmarked
  have hwarnings : other.table.selectionWarnings generator.settings.marker =
      generator.table.selectionWarnings generator.settings.marker := by
    rw [← selectionWarnings_marked other.table.toList,
      ← selectionWarnings_marked generator.table.toList]
    exact congrArg (fun marked => (Table.mk marked).selectionWarnings generator.settings.marker)
      hmarked
  simp only [Generator.prepare, Table.diagnostics, hsettings, haccepted, hwarnings]

end Unmarked

/-! ## Main result -/

/-- The preparation is read off the fates of the declarations of the generator, and
every marked declaration is counted in it once. -/
structure Preparation.Accounts (preparation : Preparation) (generator : Generator)
    (fates : List Fate) : Prop where
  meets : List.Forall₂ (Meets generator.settings) generator.table.toList fates
  artifacts : preparation.artifacts = fates.filterMap Fate.artifact?
  diagnostics : preparation.diagnostics =
    fates.filterMap Fate.rejection? ++ fates.flatMap Fate.eventWarnings
  warnings : ∀ diagnostic ∈ preparation.diagnostics, diagnostic.IsWarning
  marked : generator.stats.marked = preparation.artifacts.length +
    (fates.filterMap Fate.rejection?).length + (fates.filterMap Fate.emptiness?).length

/-- If code can be generated for every accepted declaration with events, a round is
prepared and accounts for every declaration once.  Otherwise the round fails with
the error of the first declaration for which it cannot.  Declarations without the
marker contribute nothing either way. -/
theorem prepare_accounts (generator : Generator) :
    ((∀ declaration ∈ generator.table.toList, declaration.Emits generator.settings) →
      ∃ preparation fates, generator.prepare.result = .ok preparation ∧
        preparation.Accounts generator fates) ∧
    ((¬ ∀ declaration ∈ generator.table.toList, declaration.Emits generator.settings) →
      ∃ before declaration after set error,
        generator.table.toList = before ++ declaration :: after ∧
          (∀ earlier ∈ before, earlier.Emits generator.settings) ∧
          declaration.verdict generator.settings.marker = .accepted ∧
          declaration.eventSet? = some set ∧
          set.artifact generator.settings = .error error ∧ error.declaration = declaration.path ∧
          generator.prepare.result = .error (.dispatch error)) ∧
    ∀ other : Generator, other.settings = generator.settings →
      other.table.marked generator.settings.marker =
        generator.table.marked generator.settings.marker →
      other.prepare.result = generator.prepare.result := by
  refine ⟨fun hemits => ?_, fun hfails => ?_, fun _ => prepare_result_congr⟩
  · obtain ⟨fates, hmeets, hartifacts, hwarnings, hevents⟩ :=
      exists_fates generator.settings generator.table.toList [] hemits
    refine ⟨⟨fates.filterMap Fate.artifact?,
      generator.table.diagnostics generator.settings.marker⟩, fates, ?_, ?_⟩
    · simp only [Generator.prepare]
      rw [hartifacts]
    · have hdiagnostics : generator.table.diagnostics generator.settings.marker =
          fates.filterMap Fate.rejection? ++ fates.flatMap Fate.eventWarnings := by
        rw [Table.diagnostics, ← hwarnings, ← hevents]
      exact {
        meets := hmeets
        artifacts := rfl
        diagnostics := hdiagnostics
        warnings := fun diagnostic hmem => isWarning_of_mem hmeets (hdiagnostics ▸ hmem)
        marked := length_marked_eq hmeets }
  · obtain ⟨before, declaration, after, set, error, htable, hbefore, haccepted, hset, herror⟩ :=
      exists_first_failure hfails
    refine ⟨before, declaration, after, set, error, htable, hbefore, haccepted, hset, herror,
      declaration_of_error hset herror, ?_⟩
    have hfailure := prepareArtifacts_of_failure after haccepted hset herror before [] hbefore
    rw [← htable] at hfailure
    simp only [Generator.prepare]
    rw [hfailure]

/-- A declaration of another kind, which is rejected when it is marked. -/
def shape (markers : List String) : Declaration where
  name := "Shape"
  path := "ui::Shape"
  kind := .struct
  modality := .closed
  markers
  generic := false
  members := []
  origin := ⟨"ui.rs", some 8⟩

/-- A marked enumeration whose only member has a positional field. -/
def distances : Declaration where
  name := "Distance"
  path := "ui::Distance"
  kind := .enum
  modality := .closed
  markers := ["analytics_event"]
  generic := false
  members := [
    { name := "Far", parent := none, fields := .positional 1, origin := ⟨"ui.rs", some 10⟩ }]
  origin := ⟨"ui.rs", some 9⟩

/-- A generator that has read a declaration for each of the four fates. -/
def sampler : Generator where
  settings := { trackerCrate := "t", trackerType := "T" }
  table := ⟨[shape [], shape ["analytics_event"], distances, gestures]⟩
  inputs := []

/-- Of the three marked declarations one is rejected, one is empty, and one gets an artifact. -/
theorem prepare_sampler :
    sampler.stats.marked = 3 ∧
      (∀ declaration ∈ sampler.table.toList, declaration.Emits sampler.settings) ∧
      ∃ preparation fates, sampler.prepare.result = .ok preparation ∧
        preparation.Accounts sampler fates := by
  have honly : ∀ declaration ∈ sampler.table.toList,
      declaration.verdict sampler.settings.marker = .accepted →
        declaration.eventSet?.isSome = true → declaration = gestures := by
    decide +kernel
  have hemits : ∀ declaration ∈ sampler.table.toList, declaration.Emits sampler.settings := by
    intro declaration hmem haccepted set hset
    have hgestures : declaration = gestures :=
      honly declaration hmem haccepted (by rw [hset]; rfl)
    subst hgestures
    apply exists_artifact
    obtain ⟨_, rfl⟩ := Declaration.eventSet?_eq_some_iff.mp hset
    decide +kernel
  exact ⟨by decide +kernel, hemits, (prepare_accounts sampler).1 hemits⟩

end EventDispatch
