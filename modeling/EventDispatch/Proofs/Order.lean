import EventDispatch.Proofs.FileName

/-!
# What the order of a table decides

What is emitted for a declaration depends on the declaration and the settings alone
(`Declaration.emission?`).  A round goes along the table and lists the emissions; the
only thing that it adds is a name for those whose own name is taken.  So, up to their
file names, the artifacts of a round are the emissions of its declarations in table
order (`map_content_of_prepareArtifacts`), and where the derived names are different
they are just these emissions (`prepareArtifacts_eq_emissions`).

Hence two tables with the same declarations in different orders are prepared together
or fail together, and what they are given is the same but for the order, and for the
names that had to yield (`prepare_perm`).
-/

namespace EventDispatch

/-! ## Emissions -/

/-- What is emitted for the declaration by itself. -/
def Declaration.emission? (settings : Settings) (declaration : Declaration) : Option Artifact :=
  declaration.eventSet?.bind fun set => (set.artifact settings).toOption

/-- The file name derived from the name of the declaration. -/
def Declaration.derivedFileName (declaration : Declaration) : String :=
  Name.snakeCase declaration.name ++ ".rs"

/-- An artifact without its file name: the declaration, the number of arms and the text. -/
def Artifact.content (artifact : Artifact) : String × Nat × String :=
  (artifact.declaration, artifact.arms, artifact.source)

theorem content_settle (taken : List String) (artifact : Artifact) :
    (artifact.settle taken).content = artifact.content := by
  obtain ⟨hdeclaration, harms, hsource⟩ := settle_keeps taken artifact
  simp only [Artifact.content, hdeclaration, harms, hsource]

theorem settle_of_notMem {taken : List String} {artifact : Artifact}
    (hnew : artifact.fileName ∉ taken) : artifact.settle taken = artifact := by
  rw [Artifact.settle, if_neg (by simpa using hnew)]

section Emissions

variable {settings : Settings} {declaration : Declaration} {set : EventSet} {emitted : Artifact}

theorem emission?_of_none (hset : declaration.eventSet? = none) :
    declaration.emission? settings = none := by
  rw [Declaration.emission?, hset, Option.bind_none]

theorem emission?_of_artifact (hset : declaration.eventSet? = some set)
    (hemitted : set.artifact settings = .ok emitted) :
    declaration.emission? settings = some emitted := by
  rw [Declaration.emission?, hset, Option.bind_some, hemitted, Except.toOption]

end Emissions

/-! ## Along a list of declarations -/

/-- The emissions of the declarations, in their order. -/
def emissions (settings : Settings) (declarations : List Declaration) : List Artifact :=
  declarations.filterMap (Declaration.emission? settings)

/-- Up to their names, the artifacts are the emissions. -/
theorem map_content_of_prepareArtifacts {settings : Settings} :
    ∀ {declarations : List Declaration} {taken : List String} {artifacts : List Artifact},
      prepareArtifacts settings taken declarations = .ok artifacts →
        artifacts.map Artifact.content = (emissions settings declarations).map Artifact.content := by
  intro declarations
  induction declarations with
  | nil =>
      intro taken artifacts hprepared
      cases hprepared
      rfl
  | cons declaration rest ih =>
      intro taken artifacts hprepared
      rcases prepareArtifacts_cons_eq_ok hprepared with
        ⟨hset, hrest⟩ | ⟨set, emitted, others, hset, hemitted, hothers, rfl⟩
      · rw [emissions, List.filterMap_cons_none (emission?_of_none hset)]
        exact ih hrest
      · rw [emissions, List.filterMap_cons_some (emission?_of_artifact hset hemitted),
          List.map_cons, List.map_cons, content_settle, ih hothers, emissions]

/-- Where the derived names are different from each other and from those taken, no
artifact has to yield.  The induction is on the declarations; the name of an emission
joins the taken ones, and none of the others derives it. -/
theorem prepareArtifacts_eq_emissions {settings : Settings} :
    ∀ {declarations : List Declaration} {taken : List String} {artifacts : List Artifact},
      prepareArtifacts settings taken declarations = .ok artifacts →
      ((declarations.filter fun declaration => declaration.eventSet?.isSome).map
        Declaration.derivedFileName).Nodup →
      (∀ declaration ∈ declarations, declaration.eventSet?.isSome →
        declaration.derivedFileName ∉ taken) →
        artifacts = emissions settings declarations := by
  intro declarations
  induction declarations with
  | nil =>
      intro taken artifacts hprepared _ _
      cases hprepared
      rfl
  | cons declaration rest ih =>
      intro taken artifacts hprepared hnodup hfree
      have hfreeRest : ∀ other ∈ rest, other.eventSet?.isSome →
          other.derivedFileName ∉ taken := fun other hother =>
        hfree other (List.mem_cons_of_mem declaration hother)
      rcases prepareArtifacts_cons_eq_ok hprepared with
        ⟨hset, hrest⟩ | ⟨set, emitted, others, hset, hemitted, hothers, rfl⟩
      · rw [List.filter_cons_of_neg (by simp [hset])] at hnodup
        rw [emissions, List.filterMap_cons_none (emission?_of_none hset)]
        exact ih hrest hnodup hfreeRest
      · rw [List.filter_cons_of_pos (by simp [hset]), List.map_cons, List.nodup_cons] at hnodup
        obtain ⟨hnew, hnodupRest⟩ := hnodup
        have hname : emitted.fileName = declaration.derivedFileName :=
          fileName_of_artifact hset hemitted
        have hsettled : emitted.settle taken = emitted := by
          refine settle_of_notMem ?_
          rw [hname]
          exact hfree declaration List.mem_cons_self (by simp [hset])
        rw [hsettled] at hothers ⊢
        -- The name that is now taken is derived for no other declaration.
        have hfreeOthers : ∀ other ∈ rest, other.eventSet?.isSome →
            other.derivedFileName ∉ emitted.fileName :: taken := by
          intro other hother hsome hmem
          rcases List.mem_cons.mp hmem with hsame | htaken
          · refine hnew (List.mem_map.mpr ⟨other, List.mem_filter.mpr ⟨hother, hsome⟩, ?_⟩)
            rw [hsame, hname]
          · exact hfreeRest other hother hsome htaken
        rw [emissions, List.filterMap_cons_some (emission?_of_artifact hset hemitted),
          ih hothers hnodupRest hfreeOthers, emissions]

/-! ## Along a table -/

section Tables

variable {first second : Table}

theorem accepted_perm (hperm : first.toList.Perm second.toList) (marker : String) :
    (first.accepted marker).Perm (second.accepted marker) :=
  hperm.filter _

/-- Diagnostics come declaration by declaration in each of the two passes. -/
theorem diagnostics_perm (hperm : first.toList.Perm second.toList) (marker : String) :
    (first.diagnostics marker).Perm (second.diagnostics marker) :=
  (hperm.filterMap _).append ((accepted_perm hperm marker).flatMap_right _)

end Tables

/-- The sets of a round whose names are converted differently keep the derived names. -/
theorem artifacts_eq_emissions {generator : Generator} {preparation : Preparation}
    (hprepare : generator.prepare.result = .ok preparation)
    (hnodup : (generator.tracked.map fun declaration =>
      Name.snakeCase declaration.name).Nodup) :
    preparation.artifacts =
      emissions generator.settings (generator.table.accepted generator.settings.marker) := by
  refine prepareArtifacts_eq_emissions (prepareArtifacts_of_prepare hprepare) ?_ (by simp)
  have hnames := hnodup.map (f := (· ++ ".rs")) fun name other heq => by simpa using heq
  rwa [List.map_map] at hnames

/-! ## Main result -/

/-- Two tables with the same declarations, in any two orders, are prepared together or
fail together.  When they are prepared, the artifacts are the same but for their order
and their file names, and the diagnostics are the same but for their order; and if no
two sets that get an artifact have names that are converted to the same one, each
artifact has the same file name in both. -/
theorem prepare_perm {first second : Generator} (hsettings : first.settings = second.settings)
    (hperm : first.table.toList.Perm second.table.toList) :
    ((∃ preparation, first.prepare.result = .ok preparation) ↔
      ∃ preparation, second.prepare.result = .ok preparation) ∧
    ∀ preparation other, first.prepare.result = .ok preparation →
      second.prepare.result = .ok other →
        (preparation.artifacts.map Artifact.content).Perm (other.artifacts.map Artifact.content) ∧
        preparation.diagnostics.Perm other.diagnostics ∧
        ((first.tracked.map fun declaration => Name.snakeCase declaration.name).Nodup →
          preparation.artifacts.Perm other.artifacts) := by
  refine ⟨?_, fun preparation other hfirst hsecond => ?_⟩
  · rw [exists_preparation_iff, exists_preparation_iff, hsettings]
    exact forall_congr' fun declaration => by rw [hperm.mem_iff]
  · have haccepted := accepted_perm hperm second.settings.marker
    have hemissions : (emissions first.settings
        (first.table.accepted first.settings.marker)).Perm
          (emissions second.settings (second.table.accepted second.settings.marker)) := by
      rw [hsettings]
      exact haccepted.filterMap _
    refine ⟨?_, ?_, fun hnodup => ?_⟩
    · rw [map_content_of_prepareArtifacts (prepareArtifacts_of_prepare hfirst),
        map_content_of_prepareArtifacts (prepareArtifacts_of_prepare hsecond)]
      exact hemissions.map _
    · rw [(prepare_eq_ok_iff.mp hfirst).2, (prepare_eq_ok_iff.mp hsecond).2, hsettings]
      exact diagnostics_perm hperm second.settings.marker
    · have htracked : first.tracked.Perm second.tracked := by
        unfold Generator.tracked
        rw [hsettings]
        exact haccepted.filter _
      have hnames : (first.tracked.map fun declaration => Name.snakeCase declaration.name).Perm
          (second.tracked.map fun declaration => Name.snakeCase declaration.name) :=
        htracked.map _
      rw [artifacts_eq_emissions hfirst hnodup,
        artifacts_eq_emissions hsecond (hnames.nodup_iff.mp hnodup)]
      exact hemissions

/-- A generator that has read two sets with events, one without, and a structure. -/
def medley : Generator where
  settings := { trackerCrate := "t", trackerType := "T" }
  table := ⟨[gestures, distances, shape ["analytics_event"], alert "ui::MyAlert"]⟩
  inputs := []

/-- A generator that has read the same in another order. -/
def shuffledMedley : Generator :=
  { medley with
    table := ⟨[alert "ui::MyAlert", shape ["analytics_event"], gestures, distances]⟩ }

/-- The artifacts of the two come in different orders, with the same names and texts. -/
theorem prepare_shuffledMedley :
    medley.settings = shuffledMedley.settings ∧
      medley.table.toList.Perm shuffledMedley.table.toList ∧
      ∃ preparation other, medley.prepare.result = .ok preparation ∧
        shuffledMedley.prepare.result = .ok other ∧
        preparation.artifacts.map Artifact.fileName = ["gesture.rs", "my_alert.rs"] ∧
        other.artifacts.map Artifact.fileName = ["my_alert.rs", "gesture.rs"] ∧
        preparation.artifacts.Perm other.artifacts ∧
        preparation.diagnostics.Perm other.diagnostics := by
  have hsettings : medley.settings = shuffledMedley.settings := rfl
  have hperm : medley.table.toList.Perm shuffledMedley.table.toList := by
    decide +kernel
  have hfirst : (medley.prepare.result.toOption.map fun preparation =>
      preparation.artifacts.map Artifact.fileName) = some ["gesture.rs", "my_alert.rs"] := by
    decide +kernel
  have hsecond : (shuffledMedley.prepare.result.toOption.map fun preparation =>
      preparation.artifacts.map Artifact.fileName) = some ["my_alert.rs", "gesture.rs"] := by
    decide +kernel
  have hnodup : (medley.tracked.map fun declaration =>
      Name.snakeCase declaration.name).Nodup := by
    decide +kernel
  obtain ⟨preparation, hsome, hnames⟩ := Option.map_eq_some_iff.mp hfirst
  obtain ⟨other, hsomeOther, hnamesOther⟩ := Option.map_eq_some_iff.mp hsecond
  have hprepare := toOption_eq_some_iff.mp hsome
  have hprepareOther := toOption_eq_some_iff.mp hsomeOther
  obtain ⟨_, hdiagnostics, hartifacts⟩ :=
    (prepare_perm hsettings hperm).2 preparation other hprepare hprepareOther
  exact ⟨hsettings, hperm, preparation, other, hprepare, hprepareOther, hnames, hnamesOther,
    hartifacts hnodup, hdiagnostics⟩

end EventDispatch
