import EventDispatch.Preparation
import EventDispatch.Proofs.Declarations
import EventDispatch.Proofs.EventSet
import EventDispatch.Proofs.Result

/-!
# Two notations of an enumeration

The same enumeration can stand in a source file and in a manifest.
`Entry.Describes` says when an entry of a manifest writes down an enumeration of
a source file.  The two declarations that are read differ in their origins, and a
round tells them apart only by the places that its warnings name
(`prepare_eq_of_describes`).

What carries the proof is `Declaration.Alike`: the declarations agree and their
members are judged in the same way.  Every step of a round has one lemma that it
gives the same for alike declarations.
-/

namespace EventDispatch

/-! ## Alike declarations -/

/-- The diagnostic without the place it is found at. -/
def Diagnostic.unplaced (diagnostic : Diagnostic) : Diagnostic :=
  { diagnostic with location := none }

/-- The preparation, its diagnostics without their places. -/
def Preparation.unplaced (preparation : Preparation) : Preparation :=
  { preparation with diagnostics := preparation.diagnostics.map Diagnostic.unplaced }

/-- The declarations agree in all but their origins, and their members in name and in
what is decided about them. -/
structure Declaration.Alike (first second : Declaration) : Prop where
  name : first.name = second.name
  path : first.path = second.path
  kind : first.kind = second.kind
  modality : first.modality = second.modality
  markers : first.markers = second.markers
  generic : first.generic = second.generic
  members : List.Forall₂
    (fun member other => member.name = other.name ∧ first.judge member = second.judge other)
    first.members second.members

namespace Declaration

theorem Alike.refl (declaration : Declaration) : declaration.Alike declaration where
  name := rfl
  path := rfl
  kind := rfl
  modality := rfl
  markers := rfl
  generic := rfl
  members := List.forall₂_same.mpr fun _ _ => ⟨rfl, rfl⟩

/-- The events of a declaration are told by the judgements alone. -/
theorem variants_eq_filterMap_map (declaration : Declaration) :
    declaration.variants = (declaration.members.map declaration.judge).filterMap fun
      | .listed variant => some variant
      | _ => none := by
  rw [List.filterMap_map]
  rfl

theorem hasUnlisted_eq_any_map (declaration : Declaration) :
    declaration.hasUnlisted = (declaration.members.map declaration.judge).any fun
      | .positional _ => true
      | _ => false := by
  rw [List.any_map]
  rfl

namespace Alike

variable {first second : Declaration}

theorem verdict_eq (halike : first.Alike second) (marker : String) :
    first.verdict marker = second.verdict marker := by
  unfold verdict hasMarker rejection?
  rw [halike.markers, halike.kind, halike.modality, halike.generic]

theorem map_judge_eq (halike : first.Alike second) :
    first.members.map first.judge = second.members.map second.judge :=
  map_eq_map_of_forall₂ (halike.members.imp fun _ _ hsame => hsame.2)

theorem variants_eq (halike : first.Alike second) : first.variants = second.variants := by
  rw [variants_eq_filterMap_map, variants_eq_filterMap_map, halike.map_judge_eq]

theorem eventSet?_eq (halike : first.Alike second) : first.eventSet? = second.eventSet? := by
  have hunlisted : first.hasUnlisted = second.hasUnlisted := by
    rw [hasUnlisted_eq_any_map, hasUnlisted_eq_any_map, halike.map_judge_eq]
  unfold eventSet?
  rw [halike.variants_eq, hunlisted, halike.name, halike.path]

/-! ## Warnings about alike declarations -/

theorem unplaced_rejectionWarning (halike : first.Alike second) (reason : Rejection) :
    (first.rejectionWarning reason).unplaced = (second.rejectionWarning reason).unplaced := by
  simp only [rejectionWarning, Diagnostic.unplaced, Diagnostic.warning, halike.path]

theorem unplaced_memberWarning? (halike : first.Alike second) {member other : Member}
    (hname : member.name = other.name) (hjudge : first.judge member = second.judge other) :
    (first.memberWarning? member).map Diagnostic.unplaced =
      (second.memberWarning? other).map Diagnostic.unplaced := by
  unfold memberWarning?
  rw [hjudge]
  cases second.judge other with
  | listed variant => rfl
  | foreign =>
      simp only [foreignWarning, memberPath, Option.map_some, Diagnostic.unplaced,
        Diagnostic.warning, halike.path, hname]
  | positional count =>
      simp only [positionalWarning, memberPath, Option.map_some, Diagnostic.unplaced,
        Diagnostic.warning, halike.path, hname]

theorem unplaced_emptyWarning? (halike : first.Alike second) :
    first.emptyWarning?.map Diagnostic.unplaced = second.emptyWarning?.map Diagnostic.unplaced := by
  unfold emptyWarning?
  rw [halike.variants_eq, halike.path]
  split
  · rfl
  · rfl

theorem unplaced_eventSetWarnings (halike : first.Alike second) :
    first.eventSetWarnings.map Diagnostic.unplaced =
      second.eventSetWarnings.map Diagnostic.unplaced := by
  have hmembers : first.members.filterMap (fun member =>
        (first.memberWarning? member).map Diagnostic.unplaced) =
      second.members.filterMap fun member =>
        (second.memberWarning? member).map Diagnostic.unplaced :=
    filterMap_eq_filterMap_of_forall₂ (halike.members.imp fun _ _ hsame =>
      halike.unplaced_memberWarning? hsame.1 hsame.2)
  unfold eventSetWarnings
  rw [List.map_append, List.map_append, List.map_filterMap, List.map_filterMap, hmembers,
    ← Option.toList_map, ← Option.toList_map, halike.unplaced_emptyWarning?]

end Alike

end Declaration

/-! ## Alike tables -/

section Tables

variable {first second : Table} {declarations others : List Declaration}

theorem forall₂_place {declaration other : Declaration}
    (hdeclarations : List.Forall₂ Declaration.Alike declarations others)
    (halike : declaration.Alike other) :
    List.Forall₂ Declaration.Alike (Table.place declaration declarations)
      (Table.place other others) := by
  induction hdeclarations with
  | nil => exact .cons halike .nil
  | cons hhead hrest ih =>
      unfold Table.place
      rw [hhead.path, halike.path]
      split
      · exact .cons halike hrest
      · exact .cons hhead ih

theorem prepareArtifacts_eq (settings : Settings)
    (hdeclarations : List.Forall₂ Declaration.Alike declarations others) :
    ∀ taken, prepareArtifacts settings taken declarations =
      prepareArtifacts settings taken others := by
  induction hdeclarations with
  | nil => intro taken; rfl
  | cons halike _ ih =>
      intro taken
      simp only [prepareArtifacts, halike.eventSet?_eq, ih]

theorem forall₂_accepted (marker : String)
    (htables : List.Forall₂ Declaration.Alike first.toList second.toList) :
    List.Forall₂ Declaration.Alike (first.accepted marker) (second.accepted marker) := by
  refine List.rel_filter (fun declaration other halike => ?_) htables
  simp only [halike.verdict_eq]

theorem unplaced_diagnostics (marker : String)
    (htables : List.Forall₂ Declaration.Alike first.toList second.toList) :
    (first.diagnostics marker).map Diagnostic.unplaced =
      (second.diagnostics marker).map Diagnostic.unplaced := by
  have hselection : (first.selectionWarnings marker).map Diagnostic.unplaced =
      (second.selectionWarnings marker).map Diagnostic.unplaced := by
    unfold Table.selectionWarnings
    rw [List.map_filterMap, List.map_filterMap]
    refine filterMap_eq_filterMap_of_forall₂ (htables.imp fun declaration other halike => ?_)
    rw [halike.verdict_eq]
    cases other.verdict marker with
    | rejected reason => exact congrArg some (halike.unplaced_rejectionWarning reason)
    | unmarked => rfl
    | accepted => rfl
  have hevents : (first.accepted marker).map (fun declaration =>
        declaration.eventSetWarnings.map Diagnostic.unplaced) =
      (second.accepted marker).map fun declaration =>
        declaration.eventSetWarnings.map Diagnostic.unplaced :=
    map_eq_map_of_forall₂ ((forall₂_accepted marker htables).imp fun _ _ halike =>
      halike.unplaced_eventSetWarnings)
  unfold Table.diagnostics
  rw [List.map_append, List.map_append, hselection, List.map_flatMap, List.map_flatMap,
    List.flatMap_def, List.flatMap_def, hevents]

end Tables

/-- A round tells alike tables apart only by the places in its diagnostics. -/
theorem unplaced_prepare {first second : Generator} (hsettings : first.settings = second.settings)
    (htables : List.Forall₂ Declaration.Alike first.table.toList second.table.toList) :
    first.prepare.result.map Preparation.unplaced =
      second.prepare.result.map Preparation.unplaced := by
  have hartifacts := prepareArtifacts_eq first.settings
    (forall₂_accepted first.settings.marker htables) []
  have hdiagnostics := unplaced_diagnostics first.settings.marker htables
  simp only [Generator.prepare]
  rw [← hsettings, hartifacts]
  cases prepareArtifacts first.settings [] (second.table.accepted first.settings.marker) with
  | error error => rfl
  | ok artifacts =>
      exact congrArg (fun diagnostics => Except.ok (Preparation.mk artifacts diagnostics))
        hdiagnostics

/-! ## What the two notations say -/

namespace Source

/-- Only an attribute of that name leaves the variants open. -/
theorem TypeItem.modality_eq_closed {item : TypeItem} (hkind : item.kind = .enum)
    (hclosed : "non_exhaustive" ∉ item.attributes.filterMap AttributePath.marker?) :
    item.modality = .closed := by
  have hnone : item.attributes.any AttributePath.isNonExhaustive = false := by
    rw [List.any_eq_false]
    intro path hpath hexhaustive
    simp only [AttributePath.isNonExhaustive, Bool.and_eq_true, beq_iff_eq] at hexhaustive
    refine hclosed (List.mem_filterMap.mpr ⟨path, hpath, ?_⟩)
    rw [AttributePath.marker?, hexhaustive.2]
    rfl
  simp [modality, hkind, hnone]

end Source

namespace Manifest

open Source (Item TypeItem VariantItem AttributePath)

/-- The entry writes down a variant of an enumeration, given by name and path: `fields`
lists the names of the variant's fields, `positional` counts fields without names, and
a variant without either has neither. -/
structure MemberEntry.Describes (enumeration path : String) (variant : VariantItem)
    (entry : MemberEntry) : Prop where
  name : entry.name = variant.name
  owner : entry.owner ∈ [none, some enumeration, some path]
  fields : (entry.fields, entry.positional) =
    match variant.fields with
    | .unit => (none, none)
    | .named names => (some names, none)
    | .positional count => (none, some count)

/-- The entry writes down an enumeration of a module. -/
structure Entry.Describes (module : String) (item : TypeItem) (entry : Entry) : Prop where
  name : entry.name = item.name
  path : entry.fullPath = Name.inModule module item.name
  kind : entry.kind = .enum
  modality : entry.modality = .closed
  markers : entry.markers = item.attributes.filterMap AttributePath.marker?
  generic : entry.generic = false
  members : List.Forall₂ (MemberEntry.Describes item.name entry.fullPath) item.variants
    entry.members

/-! ## What is read from them -/

/-- The member carries what the variant declares, or the variant declares an empty list
of fields and the member is without fields. -/
structure MemberEntry.ReadAs (enumeration path : String) (variant : VariantItem)
    (member : Member) : Prop where
  name : member.name = variant.name
  parent : member.parent ∈ [none, some enumeration, some path]
  fields : member.fields = variant.fields ∨
    member.fields = .unit ∧ variant.fields = .named []

section Read

variable {enumeration path module : String} {variant : VariantItem} {item : TypeItem}

theorem exists_member_of_describes (file : String) {entry : MemberEntry}
    (hdescribes : entry.Describes enumeration path variant)
    (hfields : variant.fields ≠ .positional 0) :
    ∃ member, entry.member file path = .ok member ∧
      MemberEntry.ReadAs enumeration path variant member := by
  obtain ⟨name, owner, fields, positional⟩ := entry
  obtain ⟨hname, howner, hcarried⟩ := hdescribes
  cases hvariant : variant.fields with
  | unit =>
      simp only [hvariant, Prod.mk.injEq] at hcarried
      obtain ⟨rfl, rfl⟩ := hcarried
      exact ⟨_, rfl, hname, howner, .inl hvariant.symm⟩
  | named names =>
      simp only [hvariant, Prod.mk.injEq] at hcarried
      obtain ⟨rfl, rfl⟩ := hcarried
      cases names with
      -- An empty list is read as no fields, which is judged like the empty braces.
      | nil => exact ⟨_, rfl, hname, howner, .inr ⟨rfl, hvariant⟩⟩
      | cons first rest => exact ⟨_, rfl, hname, howner, .inl hvariant.symm⟩
  | positional count =>
      simp only [hvariant, Prod.mk.injEq] at hcarried
      obtain ⟨rfl, rfl⟩ := hcarried
      cases count with
      | zero => exact absurd hvariant hfields
      | succ count => exact ⟨_, rfl, hname, howner, .inl hvariant.symm⟩

theorem MemberEntry.ReadAs.judge_eq (origin : String) {member : Member}
    {first second : Declaration} (hread : ReadAs second.name second.path variant member) :
    first.judge (variant.member origin) = second.judge member := by
  have howns : second.owns member = true := by
    have hparent := hread.parent
    simp only [List.mem_cons, List.not_mem_nil, or_false] at hparent
    rcases hparent with hparent | hparent | hparent <;> simp [Declaration.owns, hparent]
  unfold Declaration.judge
  rw [if_pos (show first.owns (variant.member origin) = true from rfl), if_pos howns]
  rcases hread.fields with hfields | ⟨hfields, hempty⟩
  · simp only [VariantItem.member, hfields, Declaration.variantOf, hread.name]
  · simp only [VariantItem.member, hfields, hempty, Declaration.variantOf, hread.name]

/-- The entry of an enumeration is read without fault, and as a declaration that is alike. -/
theorem exists_alike_of_describes (file origin : String) {entry : Entry}
    (hdescribes : entry.Describes module item) (hkind : item.kind = .enum)
    (hgeneric : item.generic = false)
    (hclosed : "non_exhaustive" ∉ item.attributes.filterMap AttributePath.marker?)
    (hnames : ∀ variant ∈ item.variants, variant.name ≠ item.name)
    (hfields : ∀ variant ∈ item.variants, variant.fields ≠ .positional 0) :
    ∃ declaration, entry.declaration file = .ok declaration ∧
      (item.declaration origin module).Alike declaration := by
  -- A member called like the enumeration would be dropped as the enumeration itself.
  have hown : entry.ownMembers = entry.members := by
    unfold Entry.ownMembers
    rw [List.filter_eq_self]
    intro member hmember
    obtain ⟨variant, hvariant, hmatch⟩ := exists_rel_of_mem hdescribes.members hmember
    rw [bne_iff_ne, hmatch.name, hdescribes.name]
    exact hnames variant hvariant
  obtain ⟨members, hmembers, hread⟩ :=
    exists_mapM_eq_ok hdescribes.members fun variant hvariant member hmatch =>
      exists_member_of_describes file hmatch (hfields variant hvariant)
  refine ⟨{
    name := entry.name
    path := entry.fullPath
    kind := entry.kind
    modality := entry.modality
    markers := entry.markers
    generic := entry.generic
    members
    origin := { file, line := none } }, ?_, ?_⟩
  · unfold Entry.declaration
    rw [hown, hmembers]
    rfl
  · refine {
      name := hdescribes.name.symm
      path := hdescribes.path.symm
      kind := hkind.trans hdescribes.kind.symm
      modality := (TypeItem.modality_eq_closed hkind hclosed).trans hdescribes.modality.symm
      markers := hdescribes.markers.symm
      generic := hgeneric.trans hdescribes.generic.symm
      members := ?_ }
    rw [← hdescribes.name] at hread
    refine List.forall₂_map_left_iff.mpr (hread.imp fun variant member hmatch => ?_)
    exact ⟨hmatch.name.symm, hmatch.judge_eq origin⟩

end Read

end Manifest

/-! ## Main result -/

open Source in
/-- An enumeration prepares in the same way, up to the places of its diagnostics, whether
it is the one type of a source file or the one entry of a manifest that describes it. -/
theorem prepare_eq_of_describes (generator : Generator)
    {source origin module manifest file : String} {names : List String} {item : TypeItem}
    {entry : Manifest.Entry}
    (hsource : (Item.ofSource source).map Item.allTypes = .ok [(names, item)])
    (hmanifest : Manifest.entries manifest = .ok [entry])
    (hdescribes : entry.Describes (names.foldl Name.inModule module) item)
    (hkind : item.kind = .enum) (hgeneric : item.generic = false)
    (hclosed : "non_exhaustive" ∉ item.attributes.filterMap AttributePath.marker?)
    (hnames : ∀ variant ∈ item.variants, variant.name ≠ item.name)
    (hfields : ∀ variant ∈ item.variants, variant.fields ≠ .positional 0) :
    ∃ first second, (generator.addSource source origin module).result = .ok first ∧
      (generator.addManifest manifest file).result = .ok second ∧
      first.prepare.result.map Preparation.unplaced =
        second.prepare.result.map Preparation.unplaced := by
  obtain ⟨declaration, hdeclaration, halike⟩ := Manifest.exists_alike_of_describes file origin
    hdescribes hkind hgeneric hclosed hnames hfields
  let read := item.declaration origin (names.foldl Name.inModule module)
  have hfirst : (generator.addSource source origin module).result =
      .ok (generator.extend [read]) := by
    cases hitems : Item.ofSource source with
    | error line => simp [hitems, Except.map] at hsource
    | ok items =>
        simp only [hitems, Except.map, Except.ok.injEq] at hsource
        simp only [Generator.addSource, Generator.readSource, hitems, Generator.take,
          Item.allDeclarations_eq_map, hsource, List.map_cons, List.map_nil]
        rfl
  have hsecond : (generator.addManifest manifest file).result =
      .ok (generator.extend [declaration]) := by
    have hread : Manifest.declarations file manifest = .ok [declaration] := by
      unfold Manifest.declarations
      rw [hmanifest]
      change [entry].mapM (Manifest.Entry.declaration file) = _
      rw [List.mapM_cons, hdeclaration]
      rfl
    simp only [Generator.addManifest, Generator.readManifest, hread, Except.mapError,
      Generator.take]
  refine ⟨_, _, hfirst, hsecond, unplaced_prepare rfl ?_⟩
  exact forall₂_place (List.forall₂_same.mpr fun other _ => .refl other) halike

/-- An enumeration in a module, with a variant of each shape. -/
def tabSource : String :=
  "mod ui \x7b #[analytics_event] enum Tab \x7b Open \x7b r#in: u8 \x7d, Moved(i8), " ++
    "Blank \x7b\x7d, Shut \x7d \x7d"

/-- The same enumeration as a manifest has it. -/
def tabManifest : String :=
  "declaration = [\x7bname = \"Tab\", path = \"app::ui::Tab\", markers = [\"analytics_event\"], " ++
    "member = [\x7bname = \"Open\", extends = \"Tab\", fields = [\"r#in\"]\x7d, " ++
    "\x7bname = \"Moved\", positional = 1\x7d, \x7bname = \"Blank\", fields = []\x7d, " ++
    "\x7bname = \"Shut\"\x7d]\x7d]"

/-- What is read from `tabSource`. -/
def tabItem : Source.TypeItem where
  kind := .enum
  name := "Tab"
  line := 1
  attributes := [{ rooted := false, segments := ["analytics_event"] }]
  generic := false
  variants := [
    { name := "Open", line := 1, fields := .named ["r#in"] },
    { name := "Moved", line := 1, fields := .positional 1 },
    { name := "Blank", line := 1, fields := .named [] },
    { name := "Shut", line := 1, fields := .unit }]

/-- What is read from `tabManifest`. -/
def tabEntry : Manifest.Entry where
  name := "Tab"
  path := some "app::ui::Tab"
  kind := .enum
  modality := .closed
  markers := ["analytics_event"]
  generic := false
  members := [
    { name := "Open", owner := some "Tab", fields := some ["r#in"], positional := none },
    { name := "Moved", owner := none, fields := none, positional := some 1 },
    { name := "Blank", owner := none, fields := some [], positional := none },
    { name := "Shut", owner := none, fields := none, positional := none }]

/-- The entry describes the enumeration, and both prepare in the same way. -/
theorem prepare_tab :
    (Source.Item.ofSource tabSource).map Source.Item.allTypes = .ok [(["ui"], tabItem)] ∧
      Manifest.entries tabManifest = .ok [tabEntry] ∧
      tabEntry.Describes (["ui"].foldl Name.inModule "app") tabItem ∧
      ∃ first second,
        ((Generator.start .standard).addSource tabSource "tab.rs" "app").result = .ok first ∧
        ((Generator.start .standard).addManifest tabManifest "tab.toml").result = .ok second ∧
        first.prepare.result.map Preparation.unplaced =
          second.prepare.result.map Preparation.unplaced := by
  have hsource : (Source.Item.ofSource tabSource).map Source.Item.allTypes =
      .ok [(["ui"], tabItem)] := by
    decide +kernel
  have hmanifest : Manifest.entries tabManifest = .ok [tabEntry] := by
    decide +kernel
  have hdescribes : tabEntry.Describes (["ui"].foldl Name.inModule "app") tabItem := {
    name := rfl
    path := by decide +kernel
    kind := rfl
    modality := rfl
    markers := rfl
    generic := rfl
    members :=
      .cons { name := rfl, owner := by decide, fields := rfl } <|
      .cons { name := rfl, owner := by decide, fields := rfl } <|
      .cons { name := rfl, owner := by decide, fields := rfl } <|
      .cons { name := rfl, owner := by decide, fields := rfl } .nil }
  exact ⟨hsource, hmanifest, hdescribes, prepare_eq_of_describes (.start .standard) hsource
    hmanifest hdescribes rfl rfl (by decide) (by decide) (by decide)⟩

/-! ## A variant that is a tuple of nothing -/

/-- An enumeration whose one variant has parentheses with nothing in them. -/
def hollowSource : String :=
  "#[analytics_event] enum E \x7b A() \x7d"

/-- The same enumeration as a manifest has it. -/
def hollowManifest : String :=
  "[[declaration]]\nname = \"E\"\nmarkers = [\"analytics_event\"]\n" ++
    "[[declaration.member]]\nname = \"A\"\npositional = 0\n"

/-- What is read from `hollowSource`. -/
def hollowItem : Source.TypeItem where
  kind := .enum
  name := "E"
  line := 1
  attributes := [{ rooted := false, segments := ["analytics_event"] }]
  generic := false
  variants := [{ name := "A", line := 1, fields := .positional 0 }]

/-- What is read from `hollowManifest`. -/
def hollowEntry : Manifest.Entry where
  name := "E"
  path := none
  kind := .enum
  modality := .closed
  markers := ["analytics_event"]
  generic := false
  members := [{ name := "A", owner := none, fields := none, positional := some 0 }]

/-- The arms of each file that a generator prepares. -/
def Generator.preparedArms (generator : Generator) : Except Failure (List Nat) :=
  generator.prepare.result.map fun preparation => preparation.artifacts.map Artifact.arms

/-- Parentheses with nothing in them make a variant without named fields, which is left
out; a count of zero makes a variant without fields, which is an event. -/
theorem tuple_of_nothing_told_apart :
    (Source.Item.ofSource hollowSource).map Source.Item.allTypes = .ok [([], hollowItem)] ∧
      Manifest.entries hollowManifest = .ok [hollowEntry] ∧
      hollowEntry.Describes "" hollowItem ∧
      ((Generator.start .standard).addSource hollowSource "e.rs" "").result.bind
        Generator.preparedArms = .ok [] ∧
      ((Generator.start .standard).addManifest hollowManifest "e.toml").result.bind
        Generator.preparedArms = .ok [1] := by
  refine ⟨by decide +kernel, by decide +kernel, ?_, by decide +kernel, by decide +kernel⟩
  exact {
    name := rfl
    path := rfl
    kind := rfl
    modality := rfl
    markers := rfl
    generic := rfl
    members := .cons { name := rfl, owner := List.mem_cons_self, fields := rfl } .nil }

end EventDispatch
