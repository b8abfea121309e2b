import EventDispatch.Proofs.Generation
import EventDispatch.Text.Lines

/-!
# One line for each fact

A build script prints a line for each file that was loaded and for each diagnostic, and
the build tool reads the output line by line.  The texts of these lines come from the
inputs: names and paths of declarations, and of files.  `length_lines_printed` says what
a line break in one of them does: there is one line more than was meant, and what stands
behind the break is read as a directive of its own.

So the output says what it should exactly when no such text has a line break in it
(`generateForBuild_directs_iff`).  Line breaks in diagnostics come from the declarations
with the marker only (`unbroken_of_mem_diagnostics`).
-/

namespace EventDispatch

/-! ## Lines of a printed text -/

namespace Text

theorem length_split (mark : Char) (text : List Char) :
    (split mark text).length = text.count mark + 1 := by
  induction text with
  | nil => rfl
  | cons c rest ih =>
      by_cases hmark : c = mark
      · simp [split, hmark, ih]
      · obtain ⟨piece, pieces, hsplit⟩ := List.exists_cons_of_ne_nil (split_ne_nil mark rest)
        rw [split_cons_of_ne hmark hsplit, List.count_cons_of_ne hmark, ← ih, hsplit]
        rfl

theorem split_printed (lines : List String) :
    split '\n' (printed lines).toList =
      (lines.flatMap fun line => split '\n' line.toList) ++ [[]] := by
  induction lines with
  | nil => rfl
  | cons line rest ih =>
      have hprinted : (printed (line :: rest)).toList =
          line.toList ++ '\n' :: (printed rest).toList := by
        simp [printed]
      rw [hprinted, split_append_mark, ih, List.flatMap_cons, List.append_assoc]

/-- Each line that was printed is read as the pieces between its line breaks. -/
theorem lines_printed (lines : List String) :
    Text.lines (printed lines) =
      lines.flatMap fun line => (split '\n' line.toList).map String.ofList := by
  rw [Text.lines, split_printed]
  simp [List.map_flatMap]

theorem length_lines_printed (lines : List String) :
    (Text.lines (printed lines)).length =
      lines.length + (lines.map fun line => line.toList.count '\n').sum := by
  rw [lines_printed]
  induction lines with
  | nil => rfl
  | cons line rest ih =>
      rw [List.flatMap_cons, List.length_append, ih, List.length_map, length_split]
      simp only [List.length_cons, List.map_cons, List.sum_cons]
      omega

/-- Lines without line breaks are read as they were printed. -/
theorem lines_printed_of_notMem {lines : List String} (hlines : ∀ line ∈ lines, '\n' ∉ line.toList) :
    Text.lines (printed lines) = lines := by
  rw [lines_printed]
  induction lines with
  | nil => rfl
  | cons line rest ih =>
      obtain ⟨hline, hrest⟩ := List.forall_mem_cons.mp hlines
      rw [List.flatMap_cons, ih hrest, split_of_notMem hline]
      simp

/-- Where there are as many lines as were printed, none of them had a line break. -/
theorem notMem_of_length_lines_printed {lines : List String}
    (hlength : (Text.lines (printed lines)).length = lines.length) :
    ∀ line ∈ lines, '\n' ∉ line.toList := by
  rw [length_lines_printed] at hlength
  have hsum : (lines.map fun line => line.toList.count '\n').sum = 0 := by omega
  intro line hline
  rw [List.sum_eq_zero_iff] at hsum
  exact List.count_eq_zero.mp (hsum _ (List.mem_map_of_mem hline))

/-- The text has no line break. -/
def Unbroken (text : String) : Prop :=
  '\n' ∉ text.toList

instance (text : String) : Decidable (Unbroken text) :=
  inferInstanceAs (Decidable (¬ _))

theorem unbroken_append {front back : String} :
    Unbroken (front ++ back) ↔ Unbroken front ∧ Unbroken back := by
  simp [Unbroken]

theorem unbroken_toString (number : Nat) : Unbroken (toString number) := by
  intro hmem
  change '\n' ∈ (Nat.repr number).toList at hmem
  rw [Nat.toList_repr] at hmem
  have hdigit := Nat.isDigit_of_mem_toDigits (by decide) (by decide) hmem
  exact absurd hdigit (by decide)

end Text

/-! ## Line breaks in diagnostics -/

open Text (Unbroken unbroken_append unbroken_toString)

/-- The texts of a declaration that diagnostics quote have no line breaks. -/
structure Declaration.Unbroken (declaration : Declaration) : Prop where
  path : Text.Unbroken declaration.path
  origin : Text.Unbroken declaration.origin.file
  members : ∀ member ∈ declaration.members,
    Text.Unbroken member.name ∧ Text.Unbroken member.origin.file

section Diagnostics

variable {declaration : Declaration} {member : Member} {diagnostic : Diagnostic} {table : Table}
  {marker : String}

theorem unbroken_describe_origin {origin : Origin} (hfile : Unbroken origin.file) :
    Unbroken origin.describe := by
  unfold Origin.describe
  cases origin.line with
  | none => exact hfile
  | some line =>
      simp only [unbroken_append]
      exact ⟨⟨hfile, by decide⟩, unbroken_toString line⟩

theorem unbroken_describe_warning {subject location message : String}
    (hlocation : Unbroken location) (hmessage : Unbroken message) :
    Unbroken (Diagnostic.warning subject (some location) message).describe := by
  simp only [Diagnostic.warning, Diagnostic.describe, unbroken_append]
  exact ⟨⟨⟨⟨hlocation, by decide⟩, by decide⟩, by decide⟩, hmessage⟩

theorem unbroken_rejectionWarning (hunbroken : declaration.Unbroken) (reason : Rejection) :
    Unbroken (declaration.rejectionWarning reason).describe := by
  have hreason : Unbroken reason.describe := by
    cases reason with
    | otherKind kind => cases kind <;> decide
    | notClosed => decide
    | generic => decide
  refine unbroken_describe_warning (unbroken_describe_origin hunbroken.origin) ?_
  simp only [unbroken_append]
  exact ⟨⟨⟨⟨by decide, hunbroken.path⟩, by decide⟩, hreason⟩, by decide⟩

theorem unbroken_memberWarning (hunbroken : declaration.Unbroken)
    (hmember : member ∈ declaration.members)
    (hwarning : declaration.memberWarning? member = some diagnostic) :
    Unbroken diagnostic.describe := by
  obtain ⟨hname, hfile⟩ := hunbroken.members member hmember
  have hpath : Unbroken (declaration.memberPath member) := by
    simp only [Declaration.memberPath, unbroken_append]
    exact ⟨⟨hunbroken.path, by decide⟩, hname⟩
  unfold Declaration.memberWarning? at hwarning
  split at hwarning <;> cases hwarning
  · refine unbroken_describe_warning (unbroken_describe_origin hfile) ?_
    simp only [unbroken_append]
    exact ⟨⟨⟨⟨by decide, hname⟩, by decide⟩, hunbroken.path⟩, by decide⟩
  · rename_i count _
    refine unbroken_describe_warning (unbroken_describe_origin hfile) ?_
    simp only [unbroken_append]
    exact ⟨⟨⟨⟨⟨by decide, hpath⟩, by decide⟩, unbroken_toString count⟩, by decide⟩, by decide⟩

theorem unbroken_emptinessWarning (hunbroken : declaration.Unbroken) :
    Unbroken declaration.emptinessWarning.describe := by
  refine unbroken_describe_warning (unbroken_describe_origin hunbroken.origin) ?_
  simp only [unbroken_append]
  exact ⟨⟨by decide, hunbroken.path⟩, by decide⟩

theorem mem_marked_iff : declaration ∈ table.marked marker ↔
    declaration ∈ table.toList ∧ marker ∈ declaration.markers := by
  rw [Table.marked, List.mem_filter, Declaration.hasMarker_iff]

/-- Every diagnostic about a table is one of three warnings about a marked declaration. -/
theorem cases_of_mem_diagnostics (hmem : diagnostic ∈ table.diagnostics marker) :
    ∃ declaration ∈ table.marked marker,
      (∃ reason, diagnostic = declaration.rejectionWarning reason) ∨
      (∃ member ∈ declaration.members, declaration.memberWarning? member = some diagnostic) ∨
      diagnostic = declaration.emptinessWarning := by
  -- The rejected declarations come first, then the accepted ones in the order of the table.
  rcases List.mem_append.mp hmem with hmem | hmem
  · obtain ⟨declaration, hdeclaration, hwarning⟩ := List.mem_filterMap.mp hmem
    split at hwarning
    · rename_i reason hverdict
      cases hwarning
      have hmarker := (Declaration.verdict_eq_rejected_iff.mp hverdict).1
      exact ⟨declaration, mem_marked_iff.mpr ⟨hdeclaration, hmarker⟩, .inl ⟨reason, rfl⟩⟩
    · cases hwarning
  · obtain ⟨declaration, haccepted, hwarning⟩ := List.mem_flatMap.mp hmem
    obtain ⟨hdeclaration, hverdict⟩ := List.mem_filter.mp haccepted
    have hmarker := (Declaration.verdict_eq_accepted_iff.mp (beq_iff_eq.mp hverdict)).1
    refine ⟨declaration, mem_marked_iff.mpr ⟨hdeclaration, hmarker⟩, .inr ?_⟩
    cases hset : declaration.eventSet? with
    | none =>
        rw [eventSetWarnings_of_none hset, List.mem_append, List.mem_singleton] at hwarning
        exact hwarning.imp_left List.mem_filterMap.mp
    | some set =>
        rw [eventSetWarnings_of_some hset] at hwarning
        exact .inl (List.mem_filterMap.mp hwarning)

theorem severity_of_mem_diagnostics (hmem : diagnostic ∈ table.diagnostics marker) :
    diagnostic.severity = .warning := by
  obtain ⟨declaration, _, hcases⟩ := cases_of_mem_diagnostics hmem
  rcases hcases with ⟨reason, rfl⟩ | ⟨member, _, hwarning⟩ | rfl
  · rfl
  · exact (isWarning_of_memberWarning? hwarning).1
  · rfl

theorem unbroken_of_mem_diagnostics
    (hunbroken : ∀ declaration ∈ table.marked marker, declaration.Unbroken)
    (hmem : diagnostic ∈ table.diagnostics marker) : Unbroken diagnostic.describe := by
  obtain ⟨declaration, hdeclaration, hcases⟩ := cases_of_mem_diagnostics hmem
  have htexts := hunbroken declaration hdeclaration
  rcases hcases with ⟨reason, rfl⟩ | ⟨member, hmember, hwarning⟩ | rfl
  · exact unbroken_rejectionWarning htexts reason
  · exact unbroken_memberWarning htexts hmember hwarning
  · exact unbroken_emptinessWarning htexts

theorem cargoDirective_of_warning (hseverity : diagnostic.severity = .warning) :
    diagnostic.cargoDirective = "cargo:warning=event-codegen: " ++ diagnostic.describe := by
  have hstart : "cargo:warning" ++ "=event-codegen: " = "cargo:warning=event-codegen: " := by decide
  rw [Diagnostic.cargoDirective, hseverity, ← hstart]

end Diagnostics

/-! ## Main result -/

/-- The lines are those that the build tool is to read after a round: one for each
loaded file in the order of loading, and then one for each diagnostic of the report, one
for a missing output directory, and none for any other failure. -/
def Generator.Directs (generator : Generator) (result : Except Failure Report)
    (lines : List String) : Prop :=
  ∃ further, lines =
      generator.inputs.map (fun path => "cargo:rerun-if-changed=" ++ path) ++ further ∧
    match result with
    | .ok report => further = report.diagnostics.map fun diagnostic =>
        "cargo:warning=event-codegen: " ++ diagnostic.describe
    | .error .noOutputDirectory => ∃ text, further = ["cargo::error=event-codegen: " ++ text]
    | .error _ => further = []

section Build

variable {σ : Type} [FileStore (StateM σ)] {generator : Generator}
  {explicit environment : Option String} {state later : σ} {outcome : Outcome Report}

theorem diagnostics_of_generate {report : Report}
    (hrun : (generator.generate explicit environment : StateM σ _).run state = (outcome, later))
    (hreport : outcome.result = .ok report) :
    report.diagnostics = generator.table.diagnostics generator.settings.marker := by
  obtain ⟨directory, preparation, ready, _, hprepare, _, _, rfl⟩ :=
    exists_steps_of_generate hrun hreport
  cases hreport
  exact (prepare_eq_ok_iff.mp hprepare).2

theorem result_eq_noOutputDirectory_iff
    (hrun : (generator.generate explicit environment : StateM σ _).run state = (outcome, later)) :
    outcome.result = .error .noOutputDirectory ↔ outputDirectory? explicit environment = none := by
  cases ends_of_generate hrun with
  | homeless hdirectory => simp [hdirectory]
  | unprepared hdirectory => simp [hdirectory]
  | unready hdirectory => simp [hdirectory]
  | unwritten hdirectory => simp [hdirectory]
  | written hdirectory => simp [hdirectory, Generator.successOutcome]

theorem outputDirectory?_eq_none_iff :
    outputDirectory? none environment = none ↔ environment = none ∨ environment = some "" := by
  cases environment with
  | none => simp [outputDirectory?]
  | some directory => simp [outputDirectory?, Option.filter]

/-- The directives that were meant: those about the files, and then those that `Directs`
asks for. -/
theorem directs_directives
    (hrun : (generator.generate explicit environment : StateM σ _).run state = (outcome, later)) :
    generator.Directs outcome.result
      (generator.inputDirectives ++ resultDirectives outcome.result) := by
  refine ⟨resultDirectives outcome.result, rfl, ?_⟩
  cases hresult : outcome.result with
  | ok report =>
      refine List.map_congr_left fun diagnostic hmem => ?_
      rw [diagnostics_of_generate hrun hresult] at hmem
      exact cargoDirective_of_warning (severity_of_mem_diagnostics hmem)
  | error failure =>
      cases failure with
      | noOutputDirectory => exact ⟨Failure.outputDiagnostic.describe, rfl⟩
      | source => rfl
      | manifest => rfl
      | dispatch => rfl
      | unreadable => rfl
      | files => rfl

/-- What is to be read has as many lines as there are directives. -/
theorem length_of_directs {lines : List String}
    (hdirects : generator.Directs outcome.result lines) :
    lines.length = (generator.inputDirectives ++ resultDirectives outcome.result).length := by
  obtain ⟨further, rfl, hfurther⟩ := hdirects
  rw [List.length_append, List.length_append, List.length_map, Generator.inputDirectives,
    List.length_map, Nat.add_left_cancel_iff]
  cases hresult : outcome.result with
  | ok report =>
      rw [hresult] at hfurther
      rw [hfurther, List.length_map, resultDirectives, List.length_map]
  | error failure =>
      rw [hresult] at hfurther
      cases failure with
      | noOutputDirectory =>
          obtain ⟨text, rfl⟩ := hfurther
          rfl
      | source | manifest | dispatch | unreadable | files => rw [hfurther]; rfl

/-- The directives have no line breaks if the paths of the files and the diagnostics of the
report have none. -/
theorem unbroken_directives_iff
    (hrun : (generator.generate explicit environment : StateM σ _).run state = (outcome, later)) :
    (∀ line ∈ generator.inputDirectives ++ resultDirectives outcome.result, Unbroken line) ↔
      (∀ path ∈ generator.inputs, Unbroken path) ∧
        ∀ report, outcome.result = .ok report →
          ∀ diagnostic ∈ report.diagnostics, Unbroken diagnostic.describe := by
  have hinputs : (∀ line ∈ generator.inputDirectives, Unbroken line) ↔
      ∀ path ∈ generator.inputs, Unbroken path := by
    have hstart : Unbroken "cargo:rerun-if-changed=" := by decide
    simp [Generator.inputDirectives, unbroken_append, hstart]
  rw [List.forall_mem_append, hinputs]
  refine and_congr_right fun _ => ?_
  cases hresult : outcome.result with
  | error failure =>
      have hnone : ∀ line ∈ resultDirectives (.error failure), Unbroken line := by
        cases failure with
        | noOutputDirectory => decide
        | source | manifest | dispatch | unreadable | files => simp [resultDirectives]
      simpa using hnone
  | ok report =>
      have hwarning : ∀ diagnostic ∈ report.diagnostics,
          Unbroken diagnostic.cargoDirective ↔ Unbroken diagnostic.describe := by
        intro diagnostic hmem
        have hstart : Unbroken "cargo:warning=event-codegen: " := by decide
        rw [diagnostics_of_generate hrun hresult] at hmem
        rw [cargoDirective_of_warning (severity_of_mem_diagnostics hmem), unbroken_append,
          and_iff_right hstart]
      simp only [resultDirectives, List.forall_mem_map, Except.ok.injEq, forall_eq']
      exact forall₂_congr hwarning

/-- The build script finds no directory exactly when the environment names none.  Read line
by line, its output is one line for each loaded file and for each diagnostic of the round,
and nothing else, exactly when neither the paths of the files nor the diagnostics have
line breaks in them.  The diagnostics have none if the texts of the marked declarations
have none. -/
theorem generateForBuild_directs_iff {directives : List String}
    (hrun : (generator.generateForBuild environment : StateM σ _).run state =
      ((outcome, directives), later)) :
    (outcome.result = .error .noOutputDirectory ↔
        environment = none ∨ environment = some "") ∧
      (generator.Directs outcome.result (Text.lines (Text.printed directives)) ↔
        (∀ path ∈ generator.inputs, Unbroken path) ∧
          ∀ report, outcome.result = .ok report →
            ∀ diagnostic ∈ report.diagnostics, Unbroken diagnostic.describe) ∧
      ((∀ path ∈ generator.inputs, Unbroken path) →
        (∀ declaration ∈ generator.table.marked generator.settings.marker,
          declaration.Unbroken) →
        generator.Directs outcome.result (Text.lines (Text.printed directives))) := by
  obtain ⟨generated, last, hgenerate, hrun⟩ := run_bind_eq hrun
  cases hrun
  have hiff : generator.Directs outcome.result (Text.lines (Text.printed
      (generator.inputDirectives ++ resultDirectives outcome.result))) ↔
      ∀ line ∈ generator.inputDirectives ++ resultDirectives outcome.result, Unbroken line := by
    constructor
    · intro hdirects
      exact Text.notMem_of_length_lines_printed (length_of_directs hdirects)
    · intro hunbroken
      rw [Text.lines_printed_of_notMem hunbroken]
      exact directs_directives hgenerate
  rw [unbroken_directives_iff hgenerate] at hiff
  refine ⟨(result_eq_noOutputDirectory_iff hgenerate).trans outputDirectory?_eq_none_iff, hiff,
    fun hinputs hmarked => hiff.mpr ⟨hinputs, fun report hreport diagnostic hmem => ?_⟩⟩
  rw [diagnostics_of_generate hgenerate hreport] at hmem
  exact unbroken_of_mem_diagnostics hmarked hmem

end Build

/-- A generator that has read a file with declarations of every fate. -/
def reported : Generator :=
  { sampler with inputs := ["src/ui.rs"] }

/-- The round has diagnostics, and none of the texts has a line break. -/
theorem directs_reported :
    ∃ outcome directives later report,
      (reported.generateForBuild (some "out") : StateM FileTree _).run workshop =
          ((outcome, directives), later) ∧
        outcome.result = .ok report ∧ report.diagnostics.length = 4 ∧
        (∀ path ∈ reported.inputs, Unbroken path) ∧
        (∀ declaration ∈ reported.table.marked reported.settings.marker,
          declaration.Unbroken) ∧
        reported.Directs outcome.result (Text.lines (Text.printed directives)) := by
  obtain ⟨outcome, directives, later, hrun⟩ : ∃ outcome directives later,
      (reported.generateForBuild (some "out") : StateM FileTree _).run workshop =
        ((outcome, directives), later) :=
    ⟨_, _, _, rfl⟩
  have hok : (((reported.generateForBuild (some "out") : StateM FileTree _).run
      workshop).1.1.result.toOption.map fun report => report.diagnostics.length) = some 4 := by
    decide +kernel
  rw [hrun] at hok
  obtain ⟨report, hsome, hlength⟩ := Option.map_eq_some_iff.mp hok
  have hinputs : ∀ path ∈ reported.inputs, Unbroken path := by decide +kernel
  have hmarked : ∀ declaration ∈ reported.table.marked reported.settings.marker,
      declaration.Unbroken := by
    have htexts : ∀ declaration ∈ reported.table.marked reported.settings.marker,
        Unbroken declaration.path ∧ Unbroken declaration.origin.file ∧
          ∀ member ∈ declaration.members,
            Unbroken member.name ∧ Unbroken member.origin.file := by
      decide +kernel
    intro declaration hmem
    obtain ⟨hpath, horigin, hmembers⟩ := htexts declaration hmem
    exact ⟨hpath, horigin, hmembers⟩
  obtain ⟨_, _, hdirects⟩ := generateForBuild_directs_iff hrun
  exact ⟨outcome, directives, later, report, hrun, toOption_eq_some_iff.mp hsome, hlength, hinputs,
    hmarked, hdirects hinputs hmarked⟩

/-- A manifest of one declaration, whose path goes on in a second line. -/
def forgingManifest : String :=
  "[[declaration]]\nname = \"E\"\npath = \"a\\ncargo:rustc-env=X=Y\"\nkind = \"struct\"\n" ++
    "markers = [\"analytics_event\"]\n"

/-- The declaration of the manifest. -/
def forging : Declaration where
  name := "E"
  path := "a\ncargo:rustc-env=X=Y"
  kind := .struct
  modality := .closed
  markers := ["analytics_event"]
  generic := false
  members := []
  origin := ⟨"e.toml", none⟩

/-- The generator that has read the manifest. -/
def forgingGenerator : Generator where
  settings := .standard
  table := ⟨[forging]⟩
  inputs := []

theorem addManifest_forging :
    ((Generator.start .standard).addManifest forgingManifest "e.toml").result =
      .ok forgingGenerator :=
  eq_ok_of_parts (by decide +kernel)

/-- One declaration and one warning about it, but two lines, the second of which is a
directive that the path of the declaration has brought along. -/
theorem path_forges_directive :
    ∃ generator outcome directives later report,
      ((Generator.start .standard).addManifest forgingManifest "e.toml").result =
          .ok generator ∧
        (generator.generateForBuild (some "out") : StateM FileTree _).run workshop =
          ((outcome, directives), later) ∧
        outcome.result = .ok report ∧ generator.inputs = [] ∧
        report.diagnostics = [forging.rejectionWarning (.otherKind .struct)] ∧
        Text.lines (Text.printed directives) =
          ["cargo:warning=event-codegen: e.toml: warning: `a",
            "cargo:rustc-env=X=Y` is a struct, not an enum, skipping"] ∧
        ¬ generator.Directs outcome.result (Text.lines (Text.printed directives)) := by
  obtain ⟨outcome, directives, later, hrun⟩ : ∃ outcome directives later,
      (forgingGenerator.generateForBuild (some "out") : StateM FileTree _).run workshop =
        ((outcome, directives), later) :=
    ⟨_, _, _, rfl⟩
  have hok : (((forgingGenerator.generateForBuild (some "out") : StateM FileTree _).run
      workshop).1.1.result.toOption.map fun report => report.diagnostics) =
        some [forging.rejectionWarning (.otherKind .struct)] := by
    decide +kernel
  have hlines : Text.lines (Text.printed ((forgingGenerator.generateForBuild (some "out") :
      StateM FileTree _).run workshop).1.2) =
        ["cargo:warning=event-codegen: e.toml: warning: `a",
          "cargo:rustc-env=X=Y` is a struct, not an enum, skipping"] := by
    decide +kernel
  rw [hrun] at hok hlines
  obtain ⟨report, hsome, hdiagnostics⟩ := Option.map_eq_some_iff.mp hok
  have hreport : outcome.result = .ok report := toOption_eq_some_iff.mp hsome
  refine ⟨forgingGenerator, outcome, directives, later, report, addManifest_forging, hrun, hreport,
    rfl, hdiagnostics, hlines, fun hdirects => ?_⟩
  have hlength := length_of_directs hdirects
  rw [hlines, hreport, resultDirectives, hdiagnostics] at hlength
  exact absurd hlength (by decide)

end EventDispatch
