import EventDispatch.Proofs.Name
import EventDispatch.Proofs.Preparation
import Mathlib

/-!
# File names of a round

An artifact is called after its declaration's name, or, where that is taken, by
the first candidate derived from the declaration's path that is not.  Candidates
with different numbers are different names, so there is such a candidate among
the first ones, one more of them than there are names taken
(`le_length_of_candidates`), and the search finds it before its numbers run out
unless two thousand million names are taken (`searchName?_cases`).

Along a round the taken names are those of the artifacts before, so no two
artifacts of a round have one name (`fileNames_of_prepare`), and each name can be
told from the declaration and the names before it (`fileNames_follow_scheme`).
-/

namespace EventDispatch

/-! ## Candidates -/

theorem toList_candidateName_zero (path : String) :
    (candidateName path 0).toList = (Name.qualifiedStem path).toList ++ ".rs".toList := by
  simp [candidateName]

theorem toList_candidateName_succ (path : String) (index : Nat) :
    (candidateName path (index + 1)).toList =
      (Name.qualifiedStem path).toList ++ '_' :: (Nat.repr (index + 2)).toList ++ ".rs".toList := by
  show (Name.qualifiedStem path ++ "_" ++ Nat.repr (index + 2) ++ ".rs").toList = _
  simp

/-- Candidates with different numbers are different names. -/
theorem candidateName_injective (path : String) : Function.Injective (candidateName path) := by
  intro first second hname
  have hlists := congrArg String.toList hname
  cases first with
  | zero =>
      cases second with
      | zero => rfl
      | succ second =>
          -- A number makes the name longer.
          rw [toList_candidateName_zero, toList_candidateName_succ] at hlists
          have hlength := congrArg List.length hlists
          simp only [List.length_append, List.length_cons] at hlength
          omega
  | succ first =>
      cases second with
      | zero =>
          rw [toList_candidateName_zero, toList_candidateName_succ] at hlists
          have hlength := congrArg List.length hlists
          simp only [List.length_append, List.length_cons] at hlength
          omega
      | succ second =>
          rw [toList_candidateName_succ, toList_candidateName_succ] at hlists
          have hstem := List.append_cancel_left (List.append_cancel_right hlists)
          have hrepr : Nat.repr (first + 2) = Nat.repr (second + 2) :=
            String.toList_inj.mp (List.cons.inj hstem).2
          have hnumber := Nat.repr_injective hrepr
          omega

/-- Where the first candidates are taken, there are as many taken names. -/
theorem le_length_of_candidates {taken : List String} {path : String} {index : Nat}
    (htaken : ∀ smaller < index, candidateName path smaller ∈ taken) : index ≤ taken.length := by
  have hsubset : (List.range index).map (candidateName path) ⊆ taken := by
    intro name hname
    obtain ⟨smaller, hsmaller, rfl⟩ := List.mem_map.mp hname
    exact htaken smaller (List.mem_range.mp hsmaller)
  have hnodup : ((List.range index).map (candidateName path)).Nodup :=
    List.nodup_range.map (candidateName_injective path)
  have hlength := (List.subperm_of_subset hnodup hsubset).length_le
  rwa [List.length_map, List.length_range] at hlength

/-! ## The search -/

/-- The candidate behind the one at an index has the number that is two above it. -/
theorem candidateName_succ_eq (path : String) {index : Nat} {number : Int32}
    (hnumber : number.toInt = index + 2) :
    s!"{Name.qualifiedStem path}_{number}.rs" = candidateName path (index + 1) := by
  have hprinted : toString number = Nat.repr (index + 2) := by
    show toString number.toInt = _
    rw [hnumber]
    rfl
  show Name.qualifiedStem path ++ "_" ++ toString number ++ ".rs" = _
  rw [hprinted]
  rfl

theorem searchName?_of_notMem {taken : List String} {name : String} (hfree : name ∉ taken)
    (path : String) (number : Int32) : searchName? taken path name number = some name := by
  rw [searchName?, if_neg (by simpa using hfree)]

theorem lt_maxValue_iff {index : Nat} {number : Int32} (hnumber : number.toInt = index + 2) :
    number < Int32.maxValue ↔ index + 1 < searchReach := by
  have hmax : Int32.maxValue.toInt = 2147483647 := by decide
  rw [Int32.lt_iff_toInt_lt, hmax, hnumber, searchReach]
  omega

/-- Where a candidate is taken, the search goes on with the one behind it, unless its number
is the largest one. -/
theorem searchName?_of_mem {taken : List String} {path : String} {index : Nat} {number : Int32}
    (htaken : candidateName path index ∈ taken) (hnumber : number.toInt = index + 2) :
    searchName? taken path (candidateName path index) number =
      if index + 1 < searchReach then
        searchName? taken path (candidateName path (index + 1)) (number + 1)
      else none := by
  rw [searchName?, if_pos (by simpa using htaken), candidateName_succ_eq path hnumber]
  simp only [lt_maxValue_iff hnumber]

/-- The search from a candidate on ends with the first one that is not taken, or it breaks off
and all that it can look at are taken.  The induction is on the number of those. -/
theorem searchName?_candidateName {taken : List String} {path : String} :
    ∀ {left index : Nat} {number : Int32}, index + left + 1 = searchReach →
      number.toInt = index + 2 →
        (∃ found, index ≤ found ∧ found < searchReach ∧
            searchName? taken path (candidateName path index) number =
              some (candidateName path found) ∧
            candidateName path found ∉ taken ∧
            ∀ earlier, index ≤ earlier → earlier < found → candidateName path earlier ∈ taken) ∨
          searchName? taken path (candidateName path index) number = none ∧
            ∀ other, index ≤ other → other < searchReach → candidateName path other ∈ taken := by
  intro left
  induction left with
  | zero =>
      intro index number hreach hnumber
      by_cases htaken : candidateName path index ∈ taken
      · refine .inr ⟨?_, fun other hfrom hto => ?_⟩
        · rw [searchName?_of_mem htaken hnumber, if_neg (by omega)]
        · obtain rfl : other = index := by omega
          exact htaken
      · refine .inl ⟨index, le_rfl, by omega, searchName?_of_notMem htaken path number, htaken, ?_⟩
        intro earlier hfrom hto
        omega
  | succ left ih =>
      intro index number hreach hnumber
      by_cases htaken : candidateName path index ∈ taken
      · have hgoesOn : index + 1 < searchReach := by omega
        have hnext : (number + 1).toInt = (index + 1 : Nat) + 2 := by
          rw [toInt_succ_of_lt ((lt_maxValue_iff hnumber).mpr hgoesOn), hnumber]
          omega
        rw [searchName?_of_mem htaken hnumber, if_pos hgoesOn]
        -- What holds of the candidates behind this one holds from it on, for it is taken.
        have hextend : ∀ earlier, index ≤ earlier →
            (index + 1 ≤ earlier → candidateName path earlier ∈ taken) →
              candidateName path earlier ∈ taken := by
          intro earlier hfrom hbehind
          rcases Nat.eq_or_lt_of_le hfrom with rfl | hlt
          · exact htaken
          · exact hbehind hlt
        rcases ih (by omega) hnext with
          ⟨found, hfrom, hto, hfound, hfree, hearlier⟩ | ⟨hnone, hall⟩
        · exact .inl ⟨found, by omega, hto, hfound, hfree, fun earlier hle hlt =>
            hextend earlier hle fun hbehind => hearlier earlier hbehind hlt⟩
        · exact .inr ⟨hnone, fun other hle hlt =>
            hextend other hle fun hbehind => hall other hbehind hlt⟩
      · refine .inl ⟨index, le_rfl, by omega, searchName?_of_notMem htaken path number, htaken, ?_⟩
        intro earlier hfrom hto
        omega

/-- The search of a name ends with the first candidate that is not taken, or it breaks off, and
then all candidates whose numbers can be counted up are taken. -/
theorem searchName?_cases (taken : List String) (path : String) :
    (∃ index, index < searchReach ∧
        searchName? taken path (candidateName path 0) 2 = some (candidateName path index) ∧
        candidateName path index ∉ taken ∧
        ∀ smaller < index, candidateName path smaller ∈ taken) ∨
      searchName? taken path (candidateName path 0) 2 = none ∧
        ∀ index < searchReach, candidateName path index ∈ taken := by
  have hreach : 0 + (searchReach - 1) + 1 = searchReach := by decide
  have hnumber : (2 : Int32).toInt = (0 : Nat) + 2 := by decide
  rcases @searchName?_candidateName taken path _ _ _ hreach hnumber with
    ⟨found, _, hto, hfound, hfree, hearlier⟩ | ⟨hnone, hall⟩
  · exact .inl ⟨found, hto, hfound, hfree, fun smaller hlt =>
      hearlier smaller (Nat.zero_le _) hlt⟩
  · exact .inr ⟨hnone, fun index hlt => hall index (Nat.zero_le _) hlt⟩

/-- The order of the taken names does not matter. -/
theorem searchName?_reverse (taken : List String) (path name : String) (number : Int32) :
    searchName? taken.reverse path name number = searchName? taken path name number := by
  fun_induction searchName? taken path name number with
  | case1 name number htaken hnumber ih =>
      rw [searchName?, if_pos (by simpa using htaken), if_pos hnumber, ih]
  | case2 name number htaken hnumber =>
      rw [searchName?, if_pos (by simpa using htaken), if_neg hnumber]
  | case3 name number hfree =>
      rw [searchName?, if_neg (by simpa using hfree)]

/-- With numbers of any size a candidate is found that is not taken. -/
theorem freeCandidate_eq_candidateName (taken : List String) (path : String) :
    ∃ index, freeCandidate taken path = candidateName path index ∧
      candidateName path index ∉ taken ∧
      ∀ smaller < index, candidateName path smaller ∈ taken := by
  unfold freeCandidate
  rw [List.find?_map]
  cases hfind : (List.range (taken.length + 1)).find?
      ((fun name => !taken.contains name) ∘ candidateName path) with
  | none =>
      -- There are fewer taken names than candidates.
      rw [List.find?_range_eq_none] at hfind
      have hall : ∀ smaller < taken.length + 1, candidateName path smaller ∈ taken :=
        fun smaller hsmaller => by simpa using hfind smaller hsmaller
      have hlength := le_length_of_candidates hall
      omega
  | some index =>
      rw [List.find?_range_eq_some] at hfind
      obtain ⟨hindex, _, hsmaller⟩ := hfind
      exact ⟨index, rfl, by simpa using hindex, fun smaller hlt => by
        simpa using hsmaller smaller hlt⟩

/-- The free name is the first candidate that is not taken.  Its number is at most that of
the taken names. -/
theorem freeName_eq_candidateName (taken : List String) (path : String) :
    ∃ index ≤ taken.length, freeName taken path = candidateName path index ∧
      candidateName path index ∉ taken ∧
      ∀ smaller < index, candidateName path smaller ∈ taken := by
  unfold freeName
  rcases searchName?_cases taken path with ⟨index, _, hfound, hfree, hsmaller⟩ | ⟨hnone, _⟩
  · rw [hfound, Option.getD_some]
    exact ⟨index, le_length_of_candidates hsmaller, rfl, hfree, hsmaller⟩
  · rw [hnone, Option.getD_none]
    obtain ⟨index, hname, hfree, hsmaller⟩ := freeCandidate_eq_candidateName taken path
    exact ⟨index, le_length_of_candidates hsmaller, hname, hfree, hsmaller⟩

/-- A name is found that is not taken. -/
theorem freeName_notMem (taken : List String) (path : String) : freeName taken path ∉ taken := by
  obtain ⟨index, _, hname, hfree, _⟩ := freeName_eq_candidateName taken path
  rwa [hname]

/-! ## Names of artifacts -/

/-- A name that an artifact of the declaration may have. -/
def Declaration.MayName (declaration : Declaration) (fileName : String) : Prop :=
  fileName = Name.snakeCase declaration.name ++ ".rs" ∨
    ∃ index, fileName = candidateName declaration.path index

theorem fileName_settle_notMem (taken : List String) (artifact : Artifact) :
    (artifact.settle taken).fileName ∉ taken := by
  unfold Artifact.settle
  split
  · exact freeName_notMem taken artifact.declaration
  · rename_i hfree
    simpa using hfree

theorem fileName_of_artifact {declaration : Declaration} {set : EventSet} {settings : Settings}
    {emitted : Artifact} (hset : declaration.eventSet? = some set)
    (hemitted : set.artifact settings = .ok emitted) :
    emitted.fileName = Name.snakeCase declaration.name ++ ".rs" := by
  obtain ⟨_, rfl⟩ := Declaration.eventSet?_eq_some_iff.mp hset
  obtain ⟨dispatch, _, hresult⟩ := bind_eq_ok_iff.mp hemitted
  cases hresult
  rfl

theorem mayName_settle {declaration : Declaration} {set : EventSet} {settings : Settings}
    {emitted : Artifact} (hset : declaration.eventSet? = some set)
    (hemitted : set.artifact settings = .ok emitted) (taken : List String) :
    declaration.MayName (emitted.settle taken).fileName := by
  unfold Artifact.settle
  split
  · have hdeclaration := declaration_of_artifact hset hemitted
    rw [hdeclaration]
    obtain ⟨index, _, hname, _⟩ := freeName_eq_candidateName taken declaration.path
    exact .inr ⟨index, hname⟩
  · exact .inl (fileName_of_artifact hset hemitted)

/-- What the first declaration adds to the artifacts. -/
theorem prepareArtifacts_cons_eq_ok {settings : Settings} {taken : List String}
    {declaration : Declaration} {rest : List Declaration} {artifacts : List Artifact}
    (hprepared : prepareArtifacts settings taken (declaration :: rest) = .ok artifacts) :
    (declaration.eventSet? = none ∧ prepareArtifacts settings taken rest = .ok artifacts) ∨
      ∃ set emitted others, declaration.eventSet? = some set ∧
        set.artifact settings = .ok emitted ∧
        prepareArtifacts settings ((emitted.settle taken).fileName :: taken) rest = .ok others ∧
        artifacts = emitted.settle taken :: others := by
  cases hset : declaration.eventSet? with
  | none =>
      rw [prepareArtifacts_cons_of_none hset] at hprepared
      exact .inl ⟨rfl, hprepared⟩
  | some set =>
      simp only [prepareArtifacts, hset] at hprepared
      obtain ⟨emitted, hemitted, hprepared⟩ := bind_eq_ok_iff.mp hprepared
      obtain ⟨others, hothers, hprepared⟩ := bind_eq_ok_iff.mp hprepared
      cases hprepared
      exact .inr ⟨set, emitted, others, rfl, hemitted, hothers, rfl⟩

/-- No artifact has a taken name or the name of another one, and each is named after
one of the declarations.  The induction is on the declarations; what is taken grows
by the name of each artifact. -/
theorem fileNames_of_prepareArtifacts {settings : Settings} :
    ∀ {declarations : List Declaration} {taken : List String} {artifacts : List Artifact},
      prepareArtifacts settings taken declarations = .ok artifacts →
        (artifacts.map Artifact.fileName).Nodup ∧
          (∀ artifact ∈ artifacts, artifact.fileName ∉ taken) ∧
          ∀ artifact ∈ artifacts, ∃ declaration ∈ declarations,
            declaration.MayName artifact.fileName := by
  intro declarations
  induction declarations with
  | nil =>
      intro taken artifacts hprepared
      cases hprepared
      simp
  | cons declaration rest ih =>
      intro taken artifacts hprepared
      rcases prepareArtifacts_cons_eq_ok hprepared with
        ⟨_, hrest⟩ | ⟨set, emitted, others, hset, hemitted, hothers, rfl⟩
      · obtain ⟨hnodup, hfree, hnames⟩ := ih hrest
        refine ⟨hnodup, hfree, fun artifact hartifact => ?_⟩
        obtain ⟨other, hother, hname⟩ := hnames artifact hartifact
        exact ⟨other, List.mem_cons_of_mem declaration hother, hname⟩
      · obtain ⟨hnodup, hfree, hnames⟩ := ih hothers
        refine ⟨?_, ?_, ?_⟩
        · -- The others were named when the name of this one was taken.
          rw [List.map_cons, List.nodup_cons]
          refine ⟨fun hmem => ?_, hnodup⟩
          obtain ⟨other, hother, hname⟩ := List.mem_map.mp hmem
          exact hfree other hother (hname ▸ List.mem_cons_self)
        · refine List.forall_mem_cons.mpr ⟨fileName_settle_notMem taken emitted, ?_⟩
          intro other hother htaken
          exact hfree other hother (List.mem_cons_of_mem _ htaken)
        · refine List.forall_mem_cons.mpr
            ⟨⟨declaration, List.mem_cons_self, mayName_settle hset hemitted taken⟩, ?_⟩
          intro artifact hartifact
          obtain ⟨other, hother, hname⟩ := hnames artifact hartifact
          exact ⟨other, List.mem_cons_of_mem declaration hother, hname⟩

theorem prepareArtifacts_of_prepare {generator : Generator} {preparation : Preparation}
    (hprepare : generator.prepare.result = .ok preparation) :
    prepareArtifacts generator.settings [] (generator.table.accepted generator.settings.marker) =
      .ok preparation.artifacts :=
  (prepare_eq_ok_iff.mp hprepare).1

/-- The artifacts of a round have different names, and each is named after an
accepted declaration. -/
theorem fileNames_of_prepare {generator : Generator} {preparation : Preparation}
    (hprepare : generator.prepare.result = .ok preparation) :
    (preparation.artifacts.map Artifact.fileName).Nodup ∧
      ∀ artifact ∈ preparation.artifacts,
        ∃ declaration ∈ generator.table.accepted generator.settings.marker,
          declaration.MayName artifact.fileName := by
  obtain ⟨hnodup, _, hnames⟩ :=
    fileNames_of_prepareArtifacts (prepareArtifacts_of_prepare hprepare)
  exact ⟨hnodup, hnames⟩

/-! ## The naming scheme -/

/-- The name that the scheme gives to the file of a declaration, told by the names of the
artifacts before: the one derived from its name if that is new, and else the first new
candidate for its path, with which the search ends.  Where all candidates that the search can
look at are taken it breaks off, and the scheme has no name. -/
structure Declaration.Takes (declaration : Declaration) (earlier : List String)
    (fileName : String) : Prop where
  derived : Name.snakeCase declaration.name ++ ".rs" ∉ earlier →
    fileName = Name.snakeCase declaration.name ++ ".rs"
  numbered : Name.snakeCase declaration.name ++ ".rs" ∈ earlier →
    (∃ index < searchReach, candidateName declaration.path index ∉ earlier) →
    searchName? earlier declaration.path (candidateName declaration.path 0) 2 = some fileName ∧
      ∃ index ≤ earlier.length, fileName = candidateName declaration.path index ∧
        fileName ∉ earlier ∧ ∀ smaller < index, candidateName declaration.path smaller ∈ earlier

/-- The accepted declarations that have events, in table order. -/
def Generator.tracked (generator : Generator) : List Declaration :=
  (generator.table.accepted generator.settings.marker).filter fun declaration =>
    declaration.eventSet?.isSome

/-- The order of the earlier names does not matter. -/
theorem Declaration.Takes.reverse {declaration : Declaration} {earlier : List String}
    {fileName : String} (htakes : declaration.Takes earlier.reverse fileName) :
    declaration.Takes earlier fileName where
  derived := by simpa only [List.mem_reverse] using htakes.derived
  numbered := by
    simpa only [List.mem_reverse, List.length_reverse, searchName?_reverse] using htakes.numbered

theorem takes_settle {declaration : Declaration} {set : EventSet} {settings : Settings}
    {emitted : Artifact} (hset : declaration.eventSet? = some set)
    (hemitted : set.artifact settings = .ok emitted) (taken : List String) :
    declaration.Takes taken (emitted.settle taken).fileName := by
  have hdeclaration := declaration_of_artifact hset hemitted
  have hname := fileName_of_artifact hset hemitted
  constructor
  · intro hnew
    rw [Artifact.settle, if_neg (by simpa [hname] using hnew), hname]
  · intro htaken hfree
    rcases searchName?_cases taken declaration.path with
      ⟨index, _, hfound, hnew, hsmaller⟩ | ⟨_, hall⟩
    · have hsettled : (emitted.settle taken).fileName = candidateName declaration.path index := by
        rw [Artifact.settle, if_pos (by simpa [hname] using htaken), hdeclaration, freeName,
          hfound, Option.getD_some]
      rw [hsettled]
      exact ⟨hfound, index, le_length_of_candidates hsmaller, rfl, hnew, hsmaller⟩
    · obtain ⟨index, hreach, hnew⟩ := hfree
      exact absurd (hall index hreach) hnew

/-- Every artifact takes its name with regard to the names taken before the first one
and those of the artifacts since.  The induction is on the declarations; the name of
the first artifact joins the taken ones. -/
theorem takes_of_prepareArtifacts {settings : Settings} :
    ∀ {declarations : List Declaration} {taken : List String} {artifacts : List Artifact},
      prepareArtifacts settings taken declarations = .ok artifacts →
        artifacts.map Artifact.declaration =
            (declarations.filter fun declaration => declaration.eventSet?.isSome).map
              Declaration.path ∧
          ∀ (index : Nat) (artifact : Artifact) (declaration : Declaration),
            artifacts[index]? = some artifact →
            (declarations.filter fun declaration => declaration.eventSet?.isSome)[index]? =
              some declaration →
            declaration.Takes (((artifacts.take index).map Artifact.fileName).reverse ++ taken)
              artifact.fileName := by
  intro declarations
  induction declarations with
  | nil =>
      intro taken artifacts hprepared
      cases hprepared
      simp
  | cons declaration rest ih =>
      intro taken artifacts hprepared
      rcases prepareArtifacts_cons_eq_ok hprepared with
        ⟨hset, hrest⟩ | ⟨set, emitted, others, hset, hemitted, hothers, rfl⟩
      · rw [List.filter_cons_of_neg (by simp [hset])]
        exact ih hrest
      · obtain ⟨hpaths, htakes⟩ := ih hothers
        rw [List.filter_cons_of_pos (by simp [hset])]
        refine ⟨?_, fun index artifact other hartifact hother => ?_⟩
        · rw [List.map_cons, List.map_cons, hpaths, (settle_keeps taken emitted).1,
            declaration_of_artifact hset hemitted]
        · cases index with
          | zero =>
              cases hartifact
              cases hother
              exact takes_settle hset hemitted taken
          | succ index =>
              have hlater := htakes index artifact other hartifact hother
              rw [List.take_succ_cons, List.map_cons, List.reverse_cons, List.append_assoc]
              exact hlater

/-- A marked enumeration with one event. -/
def alert (path : String) : Declaration where
  name := "MyAlert"
  path
  kind := .enum
  modality := .closed
  markers := ["analytics_event"]
  generic := false
  members := [{ name := "A", parent := none, fields := .unit, origin := ⟨"ui.rs", some 2⟩ }]
  origin := ⟨"ui.rs", some 1⟩

/-- A generator whose declarations have one name, and three of them one stem. -/
def namesakes : Generator where
  settings := { trackerCrate := "t", trackerType := "T" }
  table := ⟨[alert "ui::MyAlert", alert "MyAlert", alert "crate::MyAlert", alert "ui::r#MyAlert"]⟩
  inputs := []

/-- A file name has a slash only where its declaration's name or path has one. -/
theorem slash_notMem_of_mayName {declaration : Declaration} {fileName : String}
    (hname : '/' ∉ declaration.name.toList) (hpath : '/' ∉ declaration.path.toList)
    (hmay : declaration.MayName fileName) : '/' ∉ fileName.toList := by
  rcases hmay with rfl | ⟨index, rfl⟩
  · rw [String.toList_append, List.mem_append, not_or]
    exact ⟨Name.slash_notMem_snakeCase hname, by decide⟩
  · have hstem := Name.slash_notMem_qualifiedStem hpath
    cases index with
    | zero =>
        rw [toList_candidateName_zero, List.mem_append, not_or]
        exact ⟨hstem, by decide⟩
    | succ index =>
        have hdigits : '/' ∉ (Nat.repr (index + 2)).toList := by
          intro hmem
          rw [Nat.toList_repr] at hmem
          have hdigit := Nat.isDigit_of_mem_toDigits (by decide) (by decide) hmem
          exact absurd hdigit (by decide)
        rw [toList_candidateName_succ]
        simp only [List.mem_append, List.mem_cons, not_or]
        exact ⟨⟨hstem, by decide, hdigits⟩, by decide⟩

/-- A file name ends in its extension. -/
theorem suffix_of_mayName {declaration : Declaration} {fileName : String}
    (hmay : declaration.MayName fileName) : ".rs".toList <:+ fileName.toList := by
  rcases hmay with rfl | ⟨index, rfl⟩
  · rw [String.toList_append]
    exact List.suffix_append _ _
  · cases index with
    | zero =>
        rw [toList_candidateName_zero]
        exact List.suffix_append _ _
    | succ index =>
        rw [toList_candidateName_succ]
        exact List.suffix_append _ _

theorem ne_of_mayName {declaration : Declaration} {fileName other : String}
    (hmay : declaration.MayName fileName) (hother : ¬ ".rs".toList <:+ other.toList) :
    fileName ≠ other := by
  rintro rfl
  exact hother (suffix_of_mayName hmay)

end EventDispatch
