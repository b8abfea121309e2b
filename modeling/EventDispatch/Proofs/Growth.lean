import EventDispatch.Proofs.FileName
import EventDispatch.Proofs.Table

/-!
# Further declarations yield to the earlier ones

Declarations with new paths are put behind those of the table (`toList_extend_of_new`),
and a round goes along the table from the front.  So a round over the longer table is
a round over the shorter one, followed by one in which the names given so far are taken
(`prepareArtifacts_append_eq_ok`).  Whatever names the further declarations derive, it
is they that yield, and the artifacts of the shorter table are a prefix of those of the
longer one (`artifacts_kept_of_extend`).
-/

namespace EventDispatch

/-! ## Tables that grow -/

/-- Declarations with new paths are put behind the others, whatever they replace among
themselves. -/
theorem toList_extend_of_new {table : Table} {more : List Declaration}
    (hnew : ∀ declaration ∈ more, declaration.path ∉ table.paths) :
    (table.extend more).toList = table.toList ++ (Table.empty.extend more).toList := by
  induction more using List.reverseRecOn with
  | nil => exact (List.append_nil table.toList).symm
  | append_singleton more declaration ih =>
      have hmore : ∀ other ∈ more, other.path ∉ table.paths := fun other hother =>
        hnew other (List.mem_append_left [declaration] hother)
      have hlast : declaration.path ∉ table.paths :=
        hnew declaration (List.mem_append_right more (List.mem_singleton_self declaration))
      rw [Table.extend_concat, Table.extend_concat, Table.add, Table.add, ih hmore]
      exact place_append_of_notMem hlast _

theorem accepted_extend_of_new {table : Table} {more : List Declaration}
    (hnew : ∀ declaration ∈ more, declaration.path ∉ table.paths) (marker : String) :
    (table.extend more).accepted marker =
      table.accepted marker ++ (Table.empty.extend more).accepted marker := by
  rw [Table.accepted, toList_extend_of_new hnew, List.filter_append]
  rfl

/-! ## Rounds that go on -/

/-- A round over two lists is a round over the first, and then one over the second in
which the names of the first are taken.  The induction is on the first list, for all
names taken before. -/
theorem prepareArtifacts_append_eq_ok {settings : Settings} {second : List Declaration} :
    ∀ {first : List Declaration} {taken : List String} {artifacts : List Artifact},
      prepareArtifacts settings taken (first ++ second) = .ok artifacts →
      ∃ earlier others, prepareArtifacts settings taken first = .ok earlier ∧
        prepareArtifacts settings ((earlier.map Artifact.fileName).reverse ++ taken) second =
          .ok others ∧
        artifacts = earlier ++ others := by
  intro first
  induction first with
  | nil =>
      intro taken artifacts hprepared
      exact ⟨[], artifacts, rfl, hprepared, rfl⟩
  | cons declaration rest ih =>
      intro taken artifacts hprepared
      rcases prepareArtifacts_cons_eq_ok hprepared with
        ⟨hset, hrest⟩ | ⟨set, emitted, others, hset, hemitted, hothers, rfl⟩
      · obtain ⟨earlier, later, hearlier, hlater, rfl⟩ := ih hrest
        refine ⟨earlier, later, ?_, hlater, rfl⟩
        rw [prepareArtifacts_cons_of_none hset, hearlier]
      · obtain ⟨earlier, later, hearlier, hlater, rfl⟩ := ih hothers
        refine ⟨emitted.settle taken :: earlier, later, ?_, ?_, rfl⟩
        · rw [prepareArtifacts_cons_of_ok hset hemitted, hearlier]
          rfl
        · rw [List.map_cons, List.reverse_cons, List.append_assoc]
          exact hlater

/-! ## Main result -/

/-- If a round is prepared after further declarations with new paths were added, it was
prepared before, and the artifacts of then are a prefix of those of now.  Under the name
of an artifact of then no other artifact is found now. -/
theorem artifacts_kept_of_extend {generator : Generator} {more : List Declaration}
    (hnew : ∀ declaration ∈ more, declaration.path ∉ generator.table.paths)
    {later : Preparation} (hlater : (generator.extend more).prepare.result = .ok later) :
    ∃ earlier, generator.prepare.result = .ok earlier ∧
      earlier.artifacts <+: later.artifacts ∧
      ∀ artifact ∈ earlier.artifacts, ∀ other ∈ later.artifacts,
        other.fileName = artifact.fileName → other = artifact := by
  have hprepared : prepareArtifacts generator.settings []
      (generator.table.accepted generator.settings.marker ++
        (Table.empty.extend more).accepted generator.settings.marker) = .ok later.artifacts := by
    rw [← accepted_extend_of_new hnew]
    exact prepareArtifacts_of_prepare hlater
  obtain ⟨earlier, others, hearlier, _, hartifacts⟩ := prepareArtifacts_append_eq_ok hprepared
  refine ⟨⟨earlier, _⟩, prepare_eq_ok_iff.mpr ⟨hearlier, rfl⟩, ⟨others, hartifacts.symm⟩, ?_⟩
  intro artifact hartifact other hother hname
  obtain ⟨hnodup, _⟩ := fileNames_of_prepare hlater
  have hmem : artifact ∈ later.artifacts := by
    rw [hartifacts]
    exact List.mem_append_left others hartifact
  exact List.inj_on_of_nodup_map hnodup hother hmem hname

/-- A generator that has read two sets of one name. -/
def pair : Generator where
  settings := { trackerCrate := "t", trackerType := "T" }
  table := ⟨[alert "ui::MyAlert", alert "MyAlert"]⟩
  inputs := []

/-- Sets that derive the names which the first two were given, and one that replaces another. -/
def rivals : List Declaration :=
  [{ alert "Alert" with name := "MyAlert_2" }, alert "crate::MyAlert", alert "crate::MyAlert"]

/-- The rivals are named apart, and the first two keep their names. -/
theorem artifacts_rivals :
    (∀ declaration ∈ rivals, declaration.path ∉ pair.table.paths) ∧
      ∃ earlier later, pair.prepare.result = .ok earlier ∧
        (pair.extend rivals).prepare.result = .ok later ∧
        later.artifacts.map Artifact.fileName =
          ["my_alert.rs", "my_alert_2.rs", "alert.rs", "my_alert_3.rs"] ∧
        earlier.artifacts <+: later.artifacts := by
  have hnew : ∀ declaration ∈ rivals, declaration.path ∉ pair.table.paths := by
    decide +kernel
  have hok : ((pair.extend rivals).prepare.result.toOption.map fun preparation =>
      preparation.artifacts.map Artifact.fileName) =
        some ["my_alert.rs", "my_alert_2.rs", "alert.rs", "my_alert_3.rs"] := by
    decide +kernel
  obtain ⟨later, hsome, hnames⟩ := Option.map_eq_some_iff.mp hok
  have hlater := toOption_eq_some_iff.mp hsome
  obtain ⟨earlier, hearlier, hkept, _⟩ := artifacts_kept_of_extend hnew hlater
  exact ⟨hnew, earlier, later, hearlier, hlater, hnames, hkept⟩

end EventDispatch
