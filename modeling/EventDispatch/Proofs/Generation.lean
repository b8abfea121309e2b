import EventDispatch.Generation
import EventDispatch.Proofs.FileName
import EventDispatch.Proofs.FileTree
import EventDispatch.Proofs.Round

/-!
# Where the files of a round lie

A round writes its artifacts one after the other.  What lies at a location
afterwards is the text of the last artifact that was written there, or, if none
was, what lay there before (`Written`).

File names are compared as texts, but a name of a declaration may be any text,
slashes and dots included.  Such a file name is a path of its own: it can lead out
of the output directory, and two different ones can lead to one file.
`generate_heldIn_iff` says exactly when neither happens, and that it does not happen
as long as there are no slashes in the names and paths of the declarations.
-/

namespace EventDispatch

/-! ## Writing artifacts -/

/-- The location of the file of an artifact, told by the paths alone. -/
def Artifact.location (tree : FileTree) (directory : String) (artifact : Artifact) : Location :=
  tree.lexical (Path.join directory artifact.fileName)

/-- What becomes of a tree in which artifacts were written in order. -/
structure Written (tree later : FileTree) (directory : String) (artifacts : List Artifact) :
    Prop where
  grows : tree.Grows later
  locate : ∀ artifact ∈ artifacts, later.locate (Path.join directory artifact.fileName) =
    .ok (artifact.location tree directory)
  above : ∀ artifact ∈ artifacts,
    later.get? (artifact.location tree directory).dropLast = some .directory
  content : ∀ location, later.get? location =
    ((artifacts.filter fun artifact =>
      artifact.location tree directory == location).getLast?.map fun artifact =>
        .file artifact.source.toUTF8).or (tree.get? location)

section Writing

variable {tree middle later : FileTree} {directory path text : String} {artifact : Artifact}
  {artifacts rest : List Artifact} {summaries : List Summary}

theorem run_write_eq {result : Except FileFault Unit}
    (hrun : (FileStore.write path text : StateM FileTree _).run tree = (result, middle)) :
    (∃ fault, result = .error fault) ∨ result = .ok () ∧ tree.write path text = .ok middle := by
  cases hwrite : tree.write path text with
  | error fault =>
      simp only [StateT.run, FileStore.write, hwrite] at hrun
      cases hrun
      exact .inl ⟨fault, rfl⟩
  | ok written =>
      simp only [StateT.run, FileStore.write, hwrite] at hrun
      cases hrun
      exact .inr ⟨rfl, rfl⟩

/-- If all artifacts are written, the first one is, and then the rest. -/
theorem writeArtifacts_cons_eq_ok
    (hrun : (writeArtifacts directory (artifact :: rest) : StateM FileTree _).run tree =
      ((summaries, .ok ()), later)) :
    ∃ middle others,
      tree.write (Path.join directory artifact.fileName) artifact.source = .ok middle ∧
        (writeArtifacts directory rest : StateM FileTree _).run middle = ((others, .ok ()), later) ∧
        summaries = artifact.summary directory :: others := by
  obtain ⟨result, middle, hwrite, hrun⟩ := run_bind_eq hrun
  rcases run_write_eq hwrite with ⟨fault, rfl⟩ | ⟨rfl, hmiddle⟩
  · cases hrun
  · obtain ⟨⟨others, result⟩, last, hrest, hrun⟩ := run_bind_eq hrun
    cases hrun
    exact ⟨middle, others, hmiddle, hrest, rfl⟩

/-- Writing one artifact more in front.  What the rest writes lies on top of it. -/
theorem Written.cons
    (hwrite : tree.write (Path.join directory artifact.fileName) artifact.source = .ok middle)
    (hrest : Written middle later directory rest) :
    Written tree later directory (artifact :: rest) := by
  have hwrote := FileTree.wrote_of_write hwrite
  have hlocation : ∀ other : Artifact,
      other.location middle directory = other.location tree directory := fun other =>
    hwrote.grows.lexical (Path.join directory other.fileName)
  have hlocate := hrest.locate
  have habove := hrest.above
  have hcontent := hrest.content
  simp only [hlocation] at hlocate habove hcontent
  refine ⟨hwrote.grows.trans hrest.grows, ?_, ?_, ?_⟩
  · exact List.forall_mem_cons.mpr ⟨hrest.grows.locate hwrote.locate, hlocate⟩
  · exact List.forall_mem_cons.mpr ⟨hrest.grows.directory _ hwrote.above, habove⟩
  · intro location
    rw [hcontent location]
    -- The first artifact shows only where none of the rest has the same location.
    by_cases hhere : artifact.location tree directory = location
    · have hfile : middle.get? location = some (.file artifact.source.toUTF8) := by
        rw [← hhere]
        exact hwrote.get?_self
      have hkept : (artifact.location tree directory == location) = true := beq_iff_eq.mpr hhere
      simp only [List.filter_cons, hkept, if_true, List.getLast?_cons, hfile]
      cases (rest.filter fun other => other.location tree directory == location).getLast? <;> rfl
    · have hdropped : (artifact.location tree directory == location) = false :=
        beq_eq_false_iff_ne.mpr hhere
      simp only [List.filter_cons, hdropped, Bool.false_eq_true, if_false]
      rw [hwrote.get?_of_ne (Ne.symm hhere)]

theorem written_of_writeArtifacts
    (hrun : (writeArtifacts directory artifacts : StateM FileTree _).run tree =
      ((summaries, .ok ()), later)) :
    Written tree later directory artifacts ∧
      summaries = artifacts.map (Artifact.summary directory) := by
  induction artifacts generalizing tree summaries with
  | nil =>
      cases hrun
      refine ⟨⟨FileTree.Grows.refl _, by simp, by simp, fun location => ?_⟩, rfl⟩
      simp
  | cons artifact rest ih =>
      obtain ⟨middle, others, hwrite, hrest, rfl⟩ := writeArtifacts_cons_eq_ok hrun
      obtain ⟨hwritten, rfl⟩ := ih hrest
      exact ⟨hwritten.cons hwrite, rfl⟩

/-- Where artifacts have locations of their own, each of them is there in the end. -/
theorem Written.content_of_nodup (hwritten : Written tree later directory artifacts)
    (hnodup : (artifacts.map (Artifact.location tree directory)).Nodup)
    (hartifact : artifact ∈ artifacts) :
    later.get? (artifact.location tree directory) = some (.file artifact.source.toUTF8) := by
  rw [hwritten.content, filter_key_eq_singleton hnodup hartifact]
  rfl

end Writing

/-! ## A whole round -/

section Round

variable {tree ready later : FileTree} {generator : Generator}
  {explicit environment : Option String} {directory : String} {report : Report}

theorem grows_of_makeReady {artifacts : List Artifact} {result : Except FileFault Unit}
    (hrun : (makeReady directory artifacts : StateM FileTree _).run tree = (result, ready)) :
    tree.Grows ready := by
  unfold makeReady at hrun
  split at hrun
  · cases hrun
    exact FileTree.Grows.refl tree
  · have hmade : (tree.makeDirectories directory).1 = ready := congrArg Prod.snd hrun
    rw [← hmade]
    exact FileTree.grows_makeAll _ tree directory

/-- A round that succeeds has found a directory, prepared artifacts and written all of
them. -/
theorem writeArtifacts_of_generate {outcome : Outcome Report}
    (hrun : (generator.generate explicit environment : StateM FileTree _).run tree =
      (outcome, later)) (hreport : outcome.result = .ok report) :
    ∃ directory preparation ready, outputDirectory? explicit environment = some directory ∧
      generator.prepare.result = .ok preparation ∧ tree.Grows ready ∧
      (writeArtifacts directory preparation.artifacts : StateM FileTree _).run ready =
        ((report.artifacts, .ok ()), later) := by
  obtain ⟨directory, preparation, ready, hdirectory, hprepare, hready, hwrite, rfl⟩ :=
    exists_steps_of_generate hrun hreport
  cases hreport
  exact ⟨directory, preparation, ready, hdirectory, hprepare, grows_of_makeReady hready, hwrite⟩

end Round

/-! ## Main result -/

/-- The artifacts lie right in the output directory: the path of each leads to a file
there that holds its text, and no two of them are one file. -/
def HeldIn (later : FileTree) (output : Location) (directory : String)
    (artifacts : List Artifact) : Prop :=
  ∃ names : List String, names.Nodup ∧
    List.Forall₂ (fun artifact name =>
      later.locate (Path.join directory artifact.fileName) = .ok (output ++ [name]) ∧
        later.get? output = some .directory ∧
        later.get? (output ++ [name]) = some (.file artifact.source.toUTF8)) artifacts names

/-- The file names lead right into the output directory, no two of them to one place.
This looks at the paths and the working directory alone. -/
structure Apart (tree : FileTree) (directory : String) (artifacts : List Artifact) : Prop where
  inside : ∀ artifact ∈ artifacts, ∃ name,
    artifact.location tree directory = tree.lexical directory ++ [name]
  nodup : (artifacts.map (Artifact.location tree directory)).Nodup

section Holding

variable {tree later : FileTree} {directory : String} {artifacts : List Artifact}

theorem append_singleton_injective (output : Location) :
    Function.Injective fun name : String => output ++ [name] := by
  intro first second heq
  exact List.cons.inj (List.append_cancel_left heq) |>.1

/-- The paths of a later tree say the same. -/
theorem Apart.congr {ready : FileTree} (hgrows : tree.Grows ready) :
    Apart ready directory artifacts ↔ Apart tree directory artifacts := by
  have hlocation : Artifact.location ready directory = Artifact.location tree directory :=
    funext fun artifact => hgrows.lexical (Path.join directory artifact.fileName)
  have hlexical := hgrows.lexical directory
  constructor
  · intro hapart
    exact ⟨by simpa only [hlocation, hlexical] using hapart.inside, hlocation ▸ hapart.nodup⟩
  · intro hapart
    exact ⟨by simpa only [hlocation, hlexical] using hapart.inside, hlocation ▸ hapart.nodup⟩

theorem HeldIn.of_apart (hwritten : Written tree later directory artifacts)
    (hapart : Apart tree directory artifacts) :
    HeldIn later (tree.lexical directory) directory artifacts := by
  have hname : ∀ artifact ∈ artifacts, artifact.location tree directory =
      tree.lexical directory ++ [(artifact.location tree directory).getLastD ""] := by
    intro artifact hartifact
    obtain ⟨name, hlocation⟩ := hapart.inside artifact hartifact
    rw [hlocation]
    simp
  refine ⟨artifacts.map fun artifact => (artifact.location tree directory).getLastD "", ?_, ?_⟩
  · have hmap : (artifacts.map fun artifact => (artifact.location tree directory).getLastD "").map
        (fun name => tree.lexical directory ++ [name]) =
          artifacts.map (Artifact.location tree directory) := by
      rw [List.map_map]
      exact List.map_congr_left fun artifact hartifact => (hname artifact hartifact).symm
    exact List.Nodup.of_map _ (hmap ▸ hapart.nodup)
  · rw [List.forall₂_map_right_iff, List.forall₂_same]
    intro artifact hartifact
    have hlocation := hname artifact hartifact
    have habove := hwritten.above artifact hartifact
    rw [hlocation, List.dropLast_concat] at habove
    rw [← hlocation]
    exact ⟨hwritten.locate artifact hartifact, habove,
      hwritten.content_of_nodup hapart.nodup hartifact⟩

theorem HeldIn.apart (hwritten : Written tree later directory artifacts)
    (hheld : HeldIn later (tree.lexical directory) directory artifacts) :
    Apart tree directory artifacts := by
  obtain ⟨names, hnodup, hfiles⟩ := hheld
  -- Both know where the file of an artifact is found, so the places are the same.
  have hlocation : artifacts.map (Artifact.location tree directory) =
      names.map fun name => tree.lexical directory ++ [name] := by
    have hboth := (List.forall₂_and_left artifacts names).mpr ⟨hwritten.locate, hfiles⟩
    rw [← List.forall₂_eq_eq_eq, List.forall₂_map_left_iff, List.forall₂_map_right_iff]
    refine hboth.imp fun artifact name hfile => ?_
    obtain ⟨hlocate, hfound, _⟩ := hfile
    rw [hlocate] at hfound
    exact Except.ok.inj hfound
  constructor
  · intro artifact hartifact
    have hmem : artifact.location tree directory ∈
        names.map fun name => tree.lexical directory ++ [name] := by
      rw [← hlocation]
      exact List.mem_map_of_mem hartifact
    obtain ⟨name, _, hname⟩ := List.mem_map.mp hmem
    exact ⟨name, hname.symm⟩
  · rw [hlocation]
    exact hnodup.map (append_singleton_injective _)

/-- File names without slashes are names of their own in the output directory. -/
theorem apart_of_prepare {generator : Generator} {preparation : Preparation} (tree : FileTree)
    (directory : String) (hprepare : generator.prepare.result = .ok preparation)
    (hplain : ∀ declaration ∈ generator.table.accepted generator.settings.marker,
      '/' ∉ declaration.name.toList ∧ '/' ∉ declaration.path.toList) :
    Apart tree directory preparation.artifacts := by
  obtain ⟨hnodup, hnames⟩ := fileNames_of_prepare hprepare
  have hlocation : ∀ artifact ∈ preparation.artifacts,
      artifact.location tree directory = tree.lexical directory ++ [artifact.fileName] := by
    intro artifact hartifact
    obtain ⟨declaration, hdeclaration, hmay⟩ := hnames artifact hartifact
    obtain ⟨hname, hpath⟩ := hplain declaration hdeclaration
    exact FileTree.lexical_join tree directory (slash_notMem_of_mayName hname hpath hmay)
      (ne_of_mayName hmay (by decide)) (ne_of_mayName hmay (by decide))
      (ne_of_mayName hmay (by decide))
  constructor
  · exact fun artifact hartifact => ⟨artifact.fileName, hlocation artifact hartifact⟩
  · rw [List.map_congr_left hlocation]
    have hmap : (preparation.artifacts.map fun artifact =>
        tree.lexical directory ++ [artifact.fileName]) =
          (preparation.artifacts.map Artifact.fileName).map
            fun name => tree.lexical directory ++ [name] := by
      rw [List.map_map]
      rfl
    rw [hmap]
    exact hnodup.map (append_singleton_injective _)

end Holding

/-- A round that succeeds leaves each artifact in a file of its own right in the output
directory exactly when the file names lead to different places there.  They do when no
accepted declaration has a slash in its name or path. -/
theorem generate_heldIn_iff {generator : Generator} {explicit environment : Option String}
    {tree later : FileTree} {outcome : Outcome Report} {report : Report}
    (hrun : (generator.generate explicit environment : StateM FileTree _).run tree =
      (outcome, later)) (hreport : outcome.result = .ok report) :
    ∃ directory preparation, outputDirectory? explicit environment = some directory ∧
      generator.prepare.result = .ok preparation ∧
      report.artifacts = preparation.artifacts.map (Artifact.summary directory) ∧
      (HeldIn later (tree.lexical directory) directory preparation.artifacts ↔
        Apart tree directory preparation.artifacts) ∧
      ((∀ declaration ∈ generator.table.accepted generator.settings.marker,
          '/' ∉ declaration.name.toList ∧ '/' ∉ declaration.path.toList) →
        HeldIn later (tree.lexical directory) directory preparation.artifacts) := by
  obtain ⟨directory, preparation, ready, hdirectory, hprepare, hgrows, hartifacts⟩ :=
    writeArtifacts_of_generate hrun hreport
  obtain ⟨hwritten, hsummaries⟩ := written_of_writeArtifacts hartifacts
  have hiff : HeldIn later (tree.lexical directory) directory preparation.artifacts ↔
      Apart tree directory preparation.artifacts := by
    -- The artifacts are written into the tree with the directories made.
    rw [← Apart.congr hgrows, ← hgrows.lexical directory]
    exact ⟨HeldIn.apart hwritten, HeldIn.of_apart hwritten⟩
  exact ⟨directory, preparation, hdirectory, hprepare, hsummaries, hiff, fun hplain =>
    hiff.mpr (apart_of_prepare tree directory hprepare hplain)⟩

/-- A file tree with nothing but a working directory. -/
def workshop : FileTree where
  nodes := [(["work"], .directory)]
  here := ["work"]

/-- The round of a generator whose declarations have no slashes. -/
theorem heldIn_sampler :
    ∃ outcome later report preparation,
      (sampler.generate (some "out") none : StateM FileTree _).run workshop = (outcome, later) ∧
        outcome.result = .ok report ∧ sampler.prepare.result = .ok preparation ∧
        preparation.artifacts ≠ [] ∧
        HeldIn later ["work", "out"] "out" preparation.artifacts := by
  obtain ⟨outcome, later, hrun⟩ : ∃ outcome later,
      (sampler.generate (some "out") none : StateM FileTree _).run workshop = (outcome, later) :=
    ⟨_, _, rfl⟩
  have hok : (((sampler.generate (some "out") none : StateM FileTree _).run
      workshop).1.result.toOption.map fun report => report.artifacts.length) = some 1 := by
    decide +kernel
  rw [hrun] at hok
  obtain ⟨report, hsome, hlength⟩ := Option.map_eq_some_iff.mp hok
  have hreport : outcome.result = .ok report := toOption_eq_some_iff.mp hsome
  obtain ⟨directory, preparation, hdirectory, hprepare, hsummaries, _, hheld⟩ :=
    generate_heldIn_iff hrun hreport
  cases hdirectory
  have hplain : ∀ declaration ∈ sampler.table.accepted sampler.settings.marker,
      '/' ∉ declaration.name.toList ∧ '/' ∉ declaration.path.toList := by
    decide +kernel
  have houtput : workshop.lexical "out" = ["work", "out"] := by decide +kernel
  refine ⟨outcome, later, report, preparation, hrun, hreport, hprepare, ?_, ?_⟩
  · intro hnone
    rw [hsummaries, hnone] at hlength
    cases hlength
  · rw [← houtput]
    exact hheld hplain

/-- A manifest of one declaration, whose name steps out of a directory. -/
def steppingManifest : String :=
  "[[declaration]]\nname = \"../evil\"\npath = \"E\"\nmarkers = [\"analytics_event\"]\n" ++
    "[[declaration.member]]\nname = \"A\"\n"

/-- The declaration of the manifest. -/
def stepping : Declaration where
  name := "../evil"
  path := "E"
  kind := .enum
  modality := .closed
  markers := ["analytics_event"]
  generic := false
  members := [{ name := "A", parent := none, fields := .unit, origin := ⟨"e.toml", none⟩ }]
  origin := ⟨"e.toml", none⟩

/-- The generator that has read the manifest. -/
def steppingGenerator : Generator where
  settings := .standard
  table := ⟨[stepping]⟩
  inputs := []

/-- A generator is told by its parts, and those can be compared. -/
theorem eq_ok_of_parts {result : Except Failure Generator} {generator : Generator}
    (hparts : (result.toOption.map fun generator =>
      (generator.settings, generator.table, generator.inputs)) =
        some (generator.settings, generator.table, generator.inputs)) :
    result = .ok generator := by
  obtain ⟨other, hother, hsame⟩ := Option.map_eq_some_iff.mp hparts
  rw [toOption_eq_some_iff.mp hother]
  cases other
  cases generator
  cases hsame
  rfl

theorem addManifest_stepping :
    ((Generator.start .standard).addManifest steppingManifest "e.toml").result =
      .ok steppingGenerator :=
  eq_ok_of_parts (by decide +kernel)

/-- The round succeeds, but its one file lies beside the output directory, which stays
empty: the name is a path that steps back. -/
theorem stepping_leaves_output :
    ∃ generator outcome later report artifact,
      ((Generator.start .standard).addManifest steppingManifest "e.toml").result =
          .ok generator ∧
        (generator.generate (some "out") none : StateM FileTree _).run workshop =
          (outcome, later) ∧
        outcome.result = .ok report ∧
        report.artifacts = [{ declaration := "E", path := "out/../evil.rs", arms := 1 }] ∧
        (∃ preparation, generator.prepare.result = .ok preparation ∧
          preparation.artifacts = [artifact]) ∧
        workshop.lexical "out" = ["work", "out"] ∧
        (∀ name, later.get? ["work", "out", name] = none) ∧
        later.get? ["work", "evil.rs"] = some (.file artifact.source.toUTF8) := by
  obtain ⟨outcome, later, hrun⟩ : ∃ outcome later,
      (steppingGenerator.generate (some "out") none : StateM FileTree _).run workshop =
        (outcome, later) :=
    ⟨_, _, rfl⟩
  have hok : (((steppingGenerator.generate (some "out") none : StateM FileTree _).run
      workshop).1.result.toOption.map fun report => report.artifacts) =
        some [{ declaration := "E", path := "out/../evil.rs", arms := 1 }] := by
    decide +kernel
  have hplaces : ((steppingGenerator.generate (some "out") none : StateM FileTree _).run
      workshop).2.nodes.map Prod.fst = [["work"], ["work", "out"], ["work", "evil.rs"]] := by
    decide +kernel
  rw [hrun] at hok hplaces
  obtain ⟨report, hsome, hsummary⟩ := Option.map_eq_some_iff.mp hok
  have hreport : outcome.result = .ok report := toOption_eq_some_iff.mp hsome
  obtain ⟨directory, preparation, ready, hdirectory, hprepare, hgrows, hartifacts⟩ :=
    writeArtifacts_of_generate hrun hreport
  cases hdirectory
  obtain ⟨hwritten, hsummaries⟩ := written_of_writeArtifacts hartifacts
  rw [hsummary] at hsummaries
  obtain ⟨artifact, hsingle, hartifact⟩ := List.map_eq_singleton_iff.mp hsummaries.symm
  have hlocation : artifact.location ready "out" = ["work", "evil.rs"] := by
    have hpath : Path.join "out" artifact.fileName = "out/../evil.rs" :=
      congrArg Summary.path hartifact
    rw [Artifact.location, hpath, hgrows.lexical]
    decide +kernel
  refine ⟨steppingGenerator, outcome, later, report, artifact, addManifest_stepping, hrun, hreport,
    hsummary, ⟨preparation, hprepare, hsingle⟩, by decide +kernel, fun name => ?_, ?_⟩
  · exact FileTree.get?_eq_none (by simp) (by simp [hplaces])
  · have hcontent := hwritten.content_of_nodup (by simp [hsingle])
      (hsingle ▸ List.mem_singleton_self artifact)
    rw [hlocation] at hcontent
    exact hcontent

end EventDispatch
