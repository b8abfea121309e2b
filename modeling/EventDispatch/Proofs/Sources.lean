import EventDispatch.Proofs.Declarations
import EventDispatch.Proofs.Items
import EventDispatch.Proofs.Preparation
import EventDispatch.Proofs.Reference

/-!
# Rounds over source texts

What a source text declares is named by identifiers, and the paths of its types
are made of them.  Generated code reads the names and the paths again, from plain
text and in other places.  The two readings agree up to two things: a field
written `_` has no name that a pattern can bind, and a path that starts with the
bare word `try` cannot open a type.

`Declaration.WellNamed` is what every declaration of a source text has, and keeps
in the table (`Generator.Sourced.wellNamed`).  For such a declaration code can be
generated unless one of the two exceptions applies
(`Declaration.WellNamed.exists_artifact_iff`), so that a round over source texts fails
in no other case (`exists_preparation_iff_of_sourced`).
-/

namespace EventDispatch

open Source (Ident IsName Item Names TypeItem Reference Spells)

/-! ## Names and paths read again -/

namespace Source

/-- An identifier starts with no byte order mark. -/
theorem Ident.dropMark_eq (name : Ident) : Item.dropMark name.text.toList = name.text.toList := by
  cases htext : name.text.toList with
  | nil => rfl
  | cons c rest =>
      have hlength := name.identOrRawLength?_eq
      rw [htext] at hlength
      have hne : c ≠ '\ufeff' :=
        ne_of_isStart (isStart_of_identOrRawLength? hlength) (by decide)
      simp [Item.dropMark, hne]

theorem Ident.spells_dropMark (name : Ident) :
    Spells (lexemes (Item.dropMark name.text.toList)) [.ident name] := by
  rw [name.dropMark_eq]
  exact spells_ident name

/-- A name is read again as itself. -/
theorem identOfText_of_isName {text : String} (hname : IsName text) :
    Reference.identOfText text = .ok text := by
  obtain ⟨name, rfl, hfree⟩ := hname
  exact Reference.identOfText_eq_ok name.spells_dropMark hfree

/-- An identifier that may be a segment is a path of one segment. -/
theorem ofText_of_isSegment {name : Ident} (hname : name.IsSegment) :
    Reference.ofText name.text =
      .ok (Names.path { rooted := false, segments := [name.text] }) :=
  Reference.ofText_eq_ok_iff.mpr ⟨_, name.spells_dropMark, .free (.last hname)⟩

/-- The text is a path without arguments. -/
def IsPathText (text : String) : Prop :=
  ∃ names : Names, Reference.ofText text = .ok names.path

/-- What a path without arguments is read as is told by its names. -/
theorem ofText_eq_path {text : String} {names : Names}
    (hread : ((Reference.ofText text).toOption.map fun reference =>
      (reference.isPlain, reference.names)) = some (true, names)) :
    Reference.ofText text = .ok names.path := by
  obtain ⟨reference, hreference, hview⟩ := Option.map_eq_some_iff.mp hread
  obtain ⟨hplain, rfl⟩ := Prod.mk.inj hview
  rw [← Reference.eq_path_of_isPlain hplain]
  exact toOption_eq_some_iff.mp hreference

/-- The text stands for a module: for the root when it is empty. -/
def IsModule (text : String) : Prop :=
  text = "" ∨ IsPathText text

theorem isPathText_inModule {module : String} {name : Ident} (hmodule : IsModule module)
    (hname : name.IsSegment) : IsPathText (Name.inModule module name.text) := by
  unfold Name.inModule
  split
  · exact ⟨_, ofText_of_isSegment hname⟩
  · rename_i hroot
    obtain ⟨names, hread⟩ := hmodule.resolve_left hroot
    obtain ⟨longer, hlonger, _⟩ := Reference.ofText_append hread hname
    exact ⟨longer, hlonger⟩

theorem exists_segment_of_isName {text : String} (hname : IsName text) :
    ∃ name : Ident, name.text = text ∧ name.IsSegment := by
  obtain ⟨name, rfl, hfree⟩ := hname
  exact ⟨name, rfl, .inr hfree⟩

/-- What an inline module may be called is a segment, also where it is no name. -/
theorem exists_segment_of_module {text : String} (hmodule : IsName text ∨ text = "try") :
    ∃ name : Ident, name.text = text ∧ name.IsSegment := by
  rcases hmodule with hname | rfl
  · exact exists_segment_of_isName hname
  · exact ⟨{ text := "try", isLexeme := by decide +kernel }, rfl, .inl (by decide)⟩

theorem isModule_foldl {names : List String}
    (hnames : ∀ name ∈ names, IsName name ∨ name = "try") :
    ∀ {module : String}, IsModule module → IsModule (names.foldl Name.inModule module) := by
  -- On the modules from the outside in; the path in front grows and is arbitrary.
  induction names with
  | nil => exact fun hmodule => hmodule
  | cons first rest ih =>
      intro module hmodule
      obtain ⟨hfirst, hrest⟩ := List.forall_mem_cons.mp hnames
      obtain ⟨name, rfl, hsegment⟩ := exists_segment_of_module hfirst
      exact ih hrest (.inr (isPathText_inModule hmodule hsegment))

end Source

/-! ## Declarations of source texts -/

/-- The declaration has the names that a source text can give it. -/
structure Declaration.WellNamed (declaration : Declaration) : Prop where
  path : Source.IsPathText declaration.path
  own : ∀ member ∈ declaration.members, member.parent = none
  names : ∀ member ∈ declaration.members, IsName member.name
  fields : ∀ member ∈ declaration.members,
    ∀ field ∈ member.fields.names, IsName field ∨ field = "_"

theorem wellNamed_of_type {file module : String} {item : TypeItem}
    (hmodule : Source.IsModule module) (hitem : item.Named) :
    (item.declaration file module).WellNamed where
  path := by
    obtain ⟨name, hname, hsegment⟩ := Source.exists_segment_of_isName hitem.name
    have hpath := Source.isPathText_inModule hmodule hsegment
    rwa [hname] at hpath
  own := by
    intro member hmember
    obtain ⟨variant, _, rfl⟩ := List.mem_map.mp hmember
    rfl
  names := by
    intro member hmember
    obtain ⟨variant, hvariant, rfl⟩ := List.mem_map.mp hmember
    exact (hitem.variants variant hvariant).name
  fields := by
    intro member hmember
    obtain ⟨variant, hvariant, rfl⟩ := List.mem_map.mp hmember
    exact (hitem.variants variant hvariant).fields

/-- All declarations of a source text that is read are well named. -/
theorem wellNamed_of_ofSource {source file module : String} {items : List Item}
    (hread : Item.ofSource source = .ok items) (hmodule : Source.IsModule module) :
    ∀ declaration ∈ Item.allDeclarations file module items, declaration.WellNamed := by
  intro declaration hdeclaration
  rw [Item.allDeclarations_eq_map] at hdeclaration
  obtain ⟨⟨names, item⟩, hitem, rfl⟩ := List.mem_map.mp hdeclaration
  obtain ⟨hnames, hnamed⟩ := Source.named_of_ofSource hread _ hitem
  exact wellNamed_of_type (Source.isModule_foldl hnames hmodule) hnamed

/-! ## Generators that read source texts -/

theorem forall_mem_place {property : Declaration → Prop} {declaration : Declaration}
    {declarations : List Declaration} (hnew : property declaration)
    (hall : ∀ other ∈ declarations, property other) :
    ∀ other ∈ Table.place declaration declarations, property other := by
  induction declarations with
  | nil => simpa [Table.place] using hnew
  | cons first rest ih =>
      obtain ⟨hfirst, hrest⟩ := List.forall_mem_cons.mp hall
      unfold Table.place
      split
      · exact List.forall_mem_cons.mpr ⟨hnew, hrest⟩
      · exact List.forall_mem_cons.mpr ⟨hfirst, ih hrest⟩

theorem forall_mem_extend {property : Declaration → Prop} {declarations : List Declaration}
    (hnew : ∀ declaration ∈ declarations, property declaration) :
    ∀ {table : Table}, (∀ other ∈ table.toList, property other) →
      ∀ other ∈ (table.extend declarations).toList, property other := by
  induction declarations with
  | nil => exact fun hall => hall
  | cons declaration rest ih =>
      intro table hall
      obtain ⟨hdeclaration, hrest⟩ := List.forall_mem_cons.mp hnew
      have hadded : ∀ other ∈ (table.add declaration).toList, property other :=
        forall_mem_place hdeclaration hall
      exact ih hrest hadded

namespace Generator

/-- The generator has the standard settings and has read source texts only, each
in the root or behind a module path. -/
inductive Sourced : Generator → Prop
  | start : Sourced (.start .standard)
  | addSource {generator later : Generator} {source origin module : String}
      (hsourced : Sourced generator) (hmodule : Source.IsModule module)
      (hadd : (generator.addSource source origin module).result = .ok later) : Sourced later

theorem exists_items_of_addSource {generator later : Generator} {source origin module : String}
    (hadd : (generator.addSource source origin module).result = .ok later) :
    ∃ items, Item.ofSource source = .ok items ∧
      later = generator.extend (Item.allDeclarations origin module items) := by
  unfold addSource take readSource at hadd
  cases hread : Item.ofSource source with
  | error line =>
      rw [hread] at hadd
      cases hadd
  | ok items =>
      rw [hread] at hadd
      cases hadd
      exact ⟨items, rfl, rfl⟩

theorem Sourced.settings_eq {generator : Generator} (hsourced : generator.Sourced) :
    generator.settings = .standard := by
  induction hsourced with
  | start => rfl
  | addSource _ _ hadd ih =>
      obtain ⟨items, _, rfl⟩ := exists_items_of_addSource hadd
      exact ih

/-- However many source texts are read, the whole table is well named. -/
theorem Sourced.wellNamed {generator : Generator} (hsourced : generator.Sourced) :
    ∀ declaration ∈ generator.table.toList, declaration.WellNamed := by
  induction hsourced with
  | start => exact List.forall_mem_nil _
  | addSource _ hmodule hadd ih =>
      obtain ⟨items, hread, rfl⟩ := exists_items_of_addSource hadd
      exact forall_mem_extend (wellNamed_of_ofSource hread hmodule) ih

end Generator

/-! ## When code can be generated -/

/-- The text is read as a name. -/
def IsIdentText (text : String) : Prop :=
  ∃ ident, Reference.identOfText text = .ok ident

/-- The text is read as a path that can open a type. -/
def OpensType (text : String) : Prop :=
  ∃ reference, Reference.ofText text = .ok reference ∧ reference.opensType = true

theorem exists_binding_iff {field : Field} :
    (∃ binding, EventSet.readBinding field = .ok binding) ↔ IsIdentText field.ident := by
  constructor
  · rintro ⟨binding, hread⟩
    obtain ⟨ident, hident, _⟩ := bind_eq_ok_iff.mp hread
    exact ⟨ident, mapError_eq_ok_iff.mp hident⟩
  · rintro ⟨ident, hident⟩
    exact ⟨_, bind_eq_ok_iff.mpr ⟨ident, mapError_eq_ok_iff.mpr hident, rfl⟩⟩

theorem exists_arm_iff {variant : Variant} :
    (∃ arm, EventSet.readArm variant = .ok arm) ↔
      IsIdentText variant.name ∧ ∀ field ∈ variant.fields, IsIdentText field.ident := by
  constructor
  · rintro ⟨arm, hread⟩
    obtain ⟨name, hname, hread⟩ := bind_eq_ok_iff.mp hread
    obtain ⟨bindings, hbindings, _⟩ := bind_eq_ok_iff.mp hread
    refine ⟨⟨name, mapError_eq_ok_iff.mp hname⟩, fun field hfield => ?_⟩
    exact exists_binding_iff.mp (exists_mapM_iff.mp ⟨bindings, hbindings⟩ field hfield)
  · rintro ⟨⟨name, hname⟩, hfields⟩
    obtain ⟨bindings, hbindings⟩ :=
      exists_mapM_iff.mpr fun field hfield => exists_binding_iff.mpr (hfields field hfield)
    exact ⟨_, bind_eq_ok_iff.mpr ⟨name, mapError_eq_ok_iff.mpr hname,
      bind_eq_ok_iff.mpr ⟨bindings, hbindings, rfl⟩⟩⟩

/-- The paths of the standard tracker are read. -/
theorem readPath_trackerItem : ∀ item ∈ ["EventTracker", "TrackEvent", "Params", "ParamValue"],
    EventSet.readPath (Settings.standard.trackerItem item) =
      .ok (Names.path { rooted := true, segments := ["event_tracker", item] }) := by
  have hread : ∀ item ∈ ["EventTracker", "TrackEvent", "Params", "ParamValue"],
      ((Reference.ofText (Settings.standard.trackerItem item)).toOption.map fun reference =>
        (reference.isPlain, reference.names)) =
          some (true, { rooted := true, segments := ["event_tracker", item] }) := by
    decide +kernel
  exact fun item hitem => mapError_eq_ok_iff.mpr (Source.ofText_eq_path (hread item hitem))

/-- A path without arguments fits in patterns and expressions. -/
theorem fitsExpr_path (names : Names) : names.path.fitsExpr = true := by
  simp [Reference.fitsExpr, Names.path]

theorem exists_dispatch {set : EventSet} {names : Names} {arms : List Arm}
    (hpath : EventSet.readPath set.path = .ok names.path) (hopens : names.path.opensType = true)
    (harms : set.variants.mapM EventSet.readArm = .ok arms) :
    ∃ dispatch, set.dispatch .standard = .ok dispatch := by
  have htracker : EventSet.readPath Settings.standard.trackerTypePath =
      .ok (Names.path { rooted := true, segments := ["event_tracker", "EventTracker"] }) :=
    readPath_trackerItem "EventTracker" (by simp)
  have htrackEvent := readPath_trackerItem "TrackEvent" (by simp)
  have hparams := readPath_trackerItem "Params" (by simp)
  have hparamValue := readPath_trackerItem "ParamValue" (by simp)
  refine ⟨_, mapError_eq_ok_iff.mpr (bind_eq_ok_iff.mpr ⟨_, hpath, bind_eq_ok_iff.mpr
    ⟨_, htracker, bind_eq_ok_iff.mpr ⟨_, htrackEvent, bind_eq_ok_iff.mpr ⟨_, hparams,
      bind_eq_ok_iff.mpr ⟨_, hparamValue, bind_eq_ok_iff.mpr ⟨_, harms, bind_eq_ok_iff.mpr
        ⟨(), checkPlaces_eq_ok_iff.mpr ?_, rfl⟩⟩⟩⟩⟩⟩⟩)⟩
  -- The paths of the tracker are rooted, and none of the paths has arguments.
  have htakes : (Names.path { rooted := true, segments := ["event_tracker", "TrackEvent"] }
      ).takesArguments = true := by
    decide
  refine ⟨?_, htakes, .inr (fitsExpr_path _), .inr (fitsExpr_path _), .inr (fitsExpr_path _)⟩
  simp only [Dispatch.references, List.forall_mem_cons, List.not_mem_nil, false_imp_iff,
    implies_true, and_true]
  exact ⟨hopens, rfl, rfl, rfl, rfl⟩

/-- Under the standard settings code can be generated for a set whose path has no arguments,
unless its own path or names stand in the way. -/
theorem exists_artifact_iff {set : EventSet} (hplain : Source.IsPathText set.path) :
    (∃ artifact, set.artifact .standard = .ok artifact) ↔
      OpensType set.path ∧ ∀ variant ∈ set.variants, IsIdentText variant.name ∧
        ∀ field ∈ variant.fields, IsIdentText field.ident := by
  constructor
  · rintro ⟨artifact, hartifact⟩
    obtain ⟨dispatch, hdispatch, _⟩ := exists_dispatch_of_artifact hartifact
    have hof := of_dispatch hdispatch
    refine ⟨⟨dispatch.set, mapError_eq_ok_iff.mp hof.path,
      hof.fits.opens dispatch.set List.mem_cons_self⟩, fun variant hvariant => ?_⟩
    exact exists_arm_iff.mp (exists_mapM_iff.mp ⟨dispatch.arms, hof.arms⟩ variant hvariant)
  · rintro ⟨⟨path, hpath, hopens⟩, hvariants⟩
    obtain ⟨names, hnames⟩ := hplain
    obtain rfl : path = names.path := by simpa [hpath] using hnames
    obtain ⟨arms, harms⟩ :=
      exists_mapM_iff.mpr fun variant hvariant => exists_arm_iff.mpr (hvariants variant hvariant)
    obtain ⟨dispatch, hdispatch⟩ := exists_dispatch (mapError_eq_ok_iff.mpr hpath) hopens harms
    exact ⟨_, bind_eq_ok_iff.mpr ⟨dispatch, hdispatch, rfl⟩⟩

namespace Declaration

/-- A marked closed enumeration without generic parameters, with a variant whose
fields are not positional. -/
structure HasEvents (marker : String) (declaration : Declaration) : Prop where
  marked : marker ∈ declaration.markers
  plain : declaration.IsPlainSet
  event : ∃ member ∈ declaration.members, member.fields.isPositional = false

/-- Some variant has a field without a name of its own. -/
def HasBlankField (declaration : Declaration) : Prop :=
  ∃ member ∈ declaration.members, "_" ∈ member.fields.names

/-- The path starts with the bare word `try`. -/
def StartsWithTry (declaration : Declaration) : Prop :=
  ∃ reference, Reference.ofText declaration.path = .ok reference ∧
    reference.rooted = false ∧ reference.names.segments.head? = some "try"

instance (marker : String) (declaration : Declaration) :
    Decidable (declaration.HasEvents marker) :=
  decidable_of_iff
    (marker ∈ declaration.markers ∧
      (declaration.kind = .enum ∧ declaration.modality = .closed ∧ declaration.generic = false) ∧
      ∃ member ∈ declaration.members, member.fields.isPositional = false)
    ⟨fun ⟨hmarked, hplain, hevent⟩ => ⟨hmarked, hplain, hevent⟩,
      fun hevents => ⟨hevents.marked, hevents.plain, hevents.event⟩⟩

instance (declaration : Declaration) : Decidable declaration.HasBlankField :=
  inferInstanceAs (Decidable (∃ member ∈ declaration.members, "_" ∈ member.fields.names))

instance (declaration : Declaration) : Decidable declaration.StartsWithTry :=
  match hread : Reference.ofText declaration.path with
  | .ok reference =>
      decidable_of_iff (reference.rooted = false ∧ reference.names.segments.head? = some "try")
        (by simp [StartsWithTry, hread])
  | .error fault => isFalse (by simp [StartsWithTry, hread])

variable {declaration : Declaration}

theorem WellNamed.opensType_iff (hnamed : declaration.WellNamed) :
    OpensType declaration.path ↔ ¬ declaration.StartsWithTry := by
  obtain ⟨names, hread⟩ := hnamed.path
  generalize names.path = reference at hread
  have hopens : reference.opensType = true ↔
      ¬ (reference.rooted = false ∧ reference.names.segments.head? = some "try") := by
    simp [Reference.opensType, Decidable.imp_iff_not_or]
  simp [OpensType, StartsWithTry, hread, hopens]

theorem not_isIdentText_blank : ¬ IsIdentText "_" := by
  rintro ⟨ident, hread⟩
  have hfault : Reference.identOfText "_" = .error (.keyword "_") := by decide +kernel
  rw [hfault] at hread
  cases hread

theorem WellNamed.isIdentText_iff (hnamed : declaration.WellNamed) {member : Member}
    (hmember : member ∈ declaration.members) :
    (∀ field ∈ member.fields.names, IsIdentText field) ↔ "_" ∉ member.fields.names := by
  constructor
  · exact fun hall hblank => not_isIdentText_blank (hall "_" hblank)
  · intro hblank field hfield
    rcases hnamed.fields member hmember field hfield with hname | rfl
    · exact ⟨field, Source.identOfText_of_isName hname⟩
    · exact absurd hfield hblank

theorem WellNamed.lists_eq (hnamed : declaration.WellNamed) {member : Member}
    (hmember : member ∈ declaration.members) :
    declaration.lists member = !member.fields.isPositional := by
  simp [lists, owns, hnamed.own member hmember]

/-- Only fields that have names can have a blank for one. -/
theorem isPositional_of_mem_names {fields : Fields} {field : String}
    (hfield : field ∈ fields.names) : fields.isPositional = false := by
  cases fields with
  | unit => rfl
  | named names => rfl
  | positional count => cases hfield

/-- Code can be generated for a well-named declaration with events unless a field is
written as a blank or the path starts with the bare word. -/
theorem WellNamed.exists_artifact_iff (hnamed : declaration.WellNamed) {set : EventSet}
    (hset : declaration.eventSet? = some set) :
    (∃ artifact, set.artifact .standard = .ok artifact) ↔
      ¬ declaration.HasBlankField ∧ ¬ declaration.StartsWithTry := by
  have hplain : Source.IsPathText set.path := by
    obtain ⟨_, rfl⟩ := eventSet?_eq_some_iff.mp hset
    exact hnamed.path
  rw [EventDispatch.exists_artifact_iff hplain]
  obtain ⟨_, rfl⟩ := eventSet?_eq_some_iff.mp hset
  rw [hnamed.opensType_iff, and_comm]
  refine and_congr_left fun _ => ⟨?_, ?_⟩
  · -- A member with a blank among its fields is listed, so its arm would have to be read.
    rintro hall ⟨member, hmember, hblank⟩
    have hlists : declaration.lists member = true := by
      rw [hnamed.lists_eq hmember, isPositional_of_mem_names hblank, Bool.not_false]
    have hvariant : variantOf member member.fields.names ∈ declaration.variants := by
      rw [variants_eq_map_filter]
      exact List.mem_map_of_mem (List.mem_filter.mpr ⟨hmember, hlists⟩)
    obtain ⟨_, hfields⟩ := hall _ hvariant
    have hnames : ∀ field ∈ member.fields.names, IsIdentText field := fun field hfield =>
      hfields (Field.ofIdent field) (List.mem_map_of_mem hfield)
    exact (hnamed.isIdentText_iff hmember).mp hnames hblank
  · intro hblank variant hvariant
    obtain ⟨member, hmember, _, rfl⟩ := exists_member_of_mem_variants hvariant
    have hnames := (hnamed.isIdentText_iff hmember).mpr fun hmem =>
      hblank ⟨member, hmember, hmem⟩
    refine ⟨⟨member.name, Source.identOfText_of_isName (hnamed.names member hmember)⟩, ?_⟩
    intro field hfield
    obtain ⟨name, hname, rfl⟩ := List.mem_map.mp hfield
    exact hnames name hname

theorem WellNamed.hasEvents_iff (hnamed : declaration.WellNamed) {marker : String} :
    declaration.HasEvents marker ↔
      declaration.verdict marker = .accepted ∧ ∃ set, declaration.eventSet? = some set := by
  have hevent : (∃ set, declaration.eventSet? = some set) ↔
      ∃ member ∈ declaration.members, member.fields.isPositional = false := by
    rw [← Option.ne_none_iff_exists', ne_eq, eventSet?_eq_none_iff]
    push Not
    refine exists_congr fun member => and_congr_right fun hmember => ?_
    simp [hnamed.lists_eq hmember]
  rw [verdict_eq_accepted_iff, hevent]
  exact ⟨fun hevents => ⟨⟨hevents.marked, hevents.plain⟩, hevents.event⟩,
    fun ⟨⟨hmarked, hplain⟩, hmember⟩ => ⟨hmarked, hplain, hmember⟩⟩

/-- The only obstacles to the code of a well-named declaration. -/
theorem WellNamed.emits_iff (hnamed : declaration.WellNamed) :
    declaration.Emits .standard ↔
      (declaration.HasEvents Settings.standard.marker →
        ¬ declaration.HasBlankField ∧ ¬ declaration.StartsWithTry) := by
  rw [hnamed.hasEvents_iff]
  constructor
  · rintro hemits ⟨haccepted, set, hset⟩
    exact (hnamed.exists_artifact_iff hset).mp (hemits haccepted set hset)
  · intro hplain haccepted set hset
    exact (hnamed.exists_artifact_iff hset).mpr (hplain ⟨haccepted, set, hset⟩)

end Declaration

/-! ## Rounds -/

/-- In a prepared round every accepted declaration with events has an artifact. -/
theorem exists_artifact_of_prepare {generator : Generator} {preparation : Preparation}
    (hprepare : generator.prepare.result = .ok preparation) {declaration : Declaration}
    (hmem : declaration ∈ generator.table.toList)
    (haccepted : declaration.verdict generator.settings.marker = .accepted)
    {set : EventSet} (hset : declaration.eventSet? = some set) :
    ∃ artifact ∈ preparation.artifacts, artifact.declaration = declaration.path := by
  have hemits := exists_preparation_iff.mp ⟨preparation, hprepare⟩
  obtain ⟨fates, hmeets, hartifacts, _⟩ :=
    exists_fates generator.settings generator.table.toList [] hemits
  have hprepared : preparation.artifacts = fates.filterMap Fate.artifact? := by
    simp only [Generator.prepare] at hprepare
    rw [hartifacts] at hprepare
    cases hprepare
    rfl
  obtain ⟨fate, hfate, hmeet⟩ := exists_rel_of_mem hmeets.flip hmem
  obtain ⟨hmarked, hplain⟩ := Declaration.verdict_eq_accepted_iff.mp haccepted
  -- Of the four fates only the last goes with a verdict and a set like these.
  cases hmeet with
  | unmarked hmarker => exact absurd hmarked hmarker
  | rejected _ hreason =>
      have hrejected := Declaration.verdict_eq_rejected_iff.mpr ⟨hmarked, hreason⟩
      rw [haccepted] at hrejected
      cases hrejected
  | empty _ _ hmembers =>
      rw [Declaration.eventSet?_eq_none_iff.mpr hmembers] at hset
      cases hset
  | @generated _ _ artifact _ _ _ _ hdeclaration _ _ =>
      refine ⟨artifact, ?_, hdeclaration⟩
      rw [hprepared]
      exact List.mem_filterMap.mpr ⟨_, hfate, rfl⟩

/-- A round over source texts fails only where an enumeration that needs code has a field
written as a blank or a path that starts with the bare word `try`.  Otherwise each
such enumeration has its artifact, whatever it and its modules, variants and fields
are called. -/
theorem exists_preparation_iff_of_sourced {generator : Generator}
    (hsourced : generator.Sourced) :
    ((∃ preparation, generator.prepare.result = .ok preparation) ↔
      ∀ declaration ∈ generator.table.toList,
        declaration.HasEvents Settings.standard.marker →
          ¬ declaration.HasBlankField ∧ ¬ declaration.StartsWithTry) ∧
    ∀ preparation, generator.prepare.result = .ok preparation →
      ∀ declaration ∈ generator.table.toList,
        declaration.HasEvents Settings.standard.marker →
          ∃ artifact ∈ preparation.artifacts, artifact.declaration = declaration.path := by
  constructor
  · rw [exists_preparation_iff, hsourced.settings_eq]
    exact forall₂_congr fun declaration hmem => (hsourced.wellNamed declaration hmem).emits_iff
  · intro preparation hprepare declaration hmem hevents
    obtain ⟨haccepted, set, hset⟩ :=
      (hsourced.wellNamed declaration hmem).hasEvents_iff.mp hevents
    rw [← hsourced.settings_eq] at haccepted
    exact exists_artifact_of_prepare hprepare hmem haccepted hset

/-- Enumerations with raw and non-ASCII names, one of them in a module called `try`. -/
def foreignSource : String :=
  "mod r#async \x7b #[analytics_event] enum Größe \x7b " ++
    "r#Type \x7b r#fn: u8, länge: u8 \x7d \x7d \x7d\n" ++
    "mod try \x7b #[analytics_event] enum r#Enum \x7b Ж, Punkt(u8) \x7d \x7d\n"

/-- Both enumerations need code, and both get it. -/
theorem exists_preparation_foreign :
    ∃ generator preparation,
      ((Generator.start .standard).addSource foreignSource "e.rs" "crate::app").result =
        .ok generator ∧
      generator.Sourced ∧
      generator.table.toList.map Declaration.path =
        ["crate::app::r#async::Größe", "crate::app::try::r#Enum"] ∧
      generator.prepare.result = .ok preparation ∧
      ∀ declaration ∈ generator.table.toList,
        declaration.HasEvents Settings.standard.marker ∧
          ∃ artifact ∈ preparation.artifacts, artifact.declaration = declaration.path := by
  have hread : (((Generator.start .standard).addSource foreignSource "e.rs" "crate::app").result.map
      fun generator => (generator.table.toList.map Declaration.path,
        decide (∀ declaration ∈ generator.table.toList,
          declaration.HasEvents Settings.standard.marker ∧
            ¬ declaration.HasBlankField ∧ ¬ declaration.StartsWithTry))) =
      .ok (["crate::app::r#async::Größe", "crate::app::try::r#Enum"], true) := by
    decide +kernel
  obtain ⟨generator, hadd, hview⟩ := map_eq_ok_iff.mp hread
  obtain ⟨hpaths, hclear⟩ := Prod.mk.inj hview
  have hall := of_decide_eq_true hclear
  have hmodule : Source.IsModule "crate::app" :=
    .inr ⟨{ rooted := false, segments := ["crate", "app"] },
      Source.ofText_eq_path (by decide +kernel)⟩
  have hsourced : generator.Sourced := .addSource .start hmodule hadd
  obtain ⟨hiff, hartifacts⟩ := exists_preparation_iff_of_sourced hsourced
  obtain ⟨preparation, hprepare⟩ := hiff.mpr fun declaration hmem _ => (hall declaration hmem).2
  refine ⟨generator, preparation, hadd, hsourced, hpaths, hprepare, fun declaration hmem => ?_⟩
  have hevents := (hall declaration hmem).1
  exact ⟨hevents, hartifacts preparation hprepare declaration hmem hevents⟩

/-- An enumeration with a field that is written as a blank. -/
def blankSource : String :=
  "#[analytics_event] enum E \x7b A \x7b _: u8 \x7d \x7d"

/-- An enumeration in a module called `try`. -/
def trySource : String :=
  "mod try \x7b #[analytics_event] enum E \x7b A \x7d \x7d"

/-- Both texts are read, and each makes the round fail. -/
theorem accepted_source_fails :
    (∃ generator,
      ((Generator.start .standard).addSource blankSource "e.rs" "").result = .ok generator ∧
      generator.Sourced ∧
      (∃ declaration ∈ generator.table.toList,
        declaration.HasEvents Settings.standard.marker) ∧
      generator.prepare.result =
        .error (.dispatch { declaration := "E", fault := .ident "_" (.keyword "_") })) ∧
    ∃ generator,
      ((Generator.start .standard).addSource trySource "e.rs" "").result = .ok generator ∧
      generator.Sourced ∧
      (∃ declaration ∈ generator.table.toList,
        declaration.HasEvents Settings.standard.marker) ∧
      generator.prepare.result =
        .error (.dispatch { declaration := "try::E", fault := .code .misplacedTry }) := by
  have hblank : (((Generator.start .standard).addSource blankSource "e.rs" "").result.map
      fun generator => (decide (∃ declaration ∈ generator.table.toList,
        declaration.HasEvents Settings.standard.marker), generator.prepare.result)) =
      .ok (true,
        .error (.dispatch { declaration := "E", fault := .ident "_" (.keyword "_") })) := by
    decide +kernel
  have htry : (((Generator.start .standard).addSource trySource "e.rs" "").result.map
      fun generator => (decide (∃ declaration ∈ generator.table.toList,
        declaration.HasEvents Settings.standard.marker), generator.prepare.result)) =
      .ok (true,
        .error (.dispatch { declaration := "try::E", fault := .code .misplacedTry })) := by
    decide +kernel
  obtain ⟨first, hfirst, hfails⟩ := map_eq_ok_iff.mp hblank
  obtain ⟨second, hsecond, hmisplaced⟩ := map_eq_ok_iff.mp htry
  obtain ⟨hevents, hfailure⟩ := Prod.mk.inj hfails
  obtain ⟨hothers, hrefused⟩ := Prod.mk.inj hmisplaced
  exact ⟨
    ⟨first, hfirst, .addSource .start (.inl rfl) hfirst, of_decide_eq_true hevents, hfailure⟩,
    ⟨second, hsecond, .addSource .start (.inl rfl) hsecond, of_decide_eq_true hothers, hrefused⟩⟩

end EventDispatch
