import EventDispatch.Proofs.Rereading
import EventDispatch.Proofs.SnakeCase

/-!
# Leave for capitals

A field is bound under its own identifier, and the language warns about a name with a capital
that is bound.  So the function of an implementation stands behind an attribute that lets names
have capitals, if some field has one.

The identifiers with a capital are those that the conversion of names changes, and those whose
capitals all lack a lower case and stand where words start, as a double-struck `ℂ` does alone:
it is kept, and is a capital all the same.  So the attribute is there exactly if some key
differs from the identifier of its field or some identifier has a capital without a lower case
(`allowsCapitals_iff`).
-/

namespace EventDispatch

open Source

/-! ## The attribute among the trees -/

/-- The attribute that lets names have capitals. -/
def Source.Forest.capitalsAttribute : Language Tree :=
  mark '#' * group .bracket (word "allow" * group .paren (word "non_snake_case"))

/-- The trees end with a group in braces that holds the attribute and behind it a function. -/
def Source.AllowsCapitals (trees : List Tree) : Prop :=
  ∃ head opening closing leave function,
    trees = head ++ [.group .brace opening closing (leave ++ function)] ∧
      leave ∈ Forest.capitalsAttribute ∧ Peek.word "fn" function = true

section Trees

variable {argument : Language Tree} {dispatch : Dispatch} {trees : List Tree}

theorem word_of_function (htrees : trees ∈ dispatch.functionForest argument) :
    Peek.word "fn" trees = true := by
  obtain ⟨_, hsignature, _, _, rfl⟩ := Language.mem_mul.mp htrees
  obtain ⟨_, hname, _, _, rfl⟩ := Language.mem_mul.mp hsignature
  obtain ⟨_, ⟨ident, line, hfn, rfl⟩, _, _, rfl⟩ := Language.mem_mul.mp hname
  simp [Peek.word, hfn]

/-- The trees of an implementation end with its content. -/
theorem exists_content_of_forest (htrees : trees ∈ dispatch.forest argument) :
    ∃ head opening closing, ∃ front ∈ dispatch.allowForest,
      ∃ function ∈ dispatch.functionForest argument,
        trees = head ++ [.group .brace opening closing (front ++ function)] := by
  obtain ⟨docs, _, _, himpl, rfl⟩ := Language.mem_mul.mp htrees
  obtain ⟨head, _, _, ⟨opening, closing, inner, hinner, rfl⟩, rfl⟩ := Language.mem_mul.mp himpl
  obtain ⟨front, hfront, function, hfunction, rfl⟩ := Language.mem_mul.mp hinner
  exact ⟨docs ++ head, opening, closing, front, hfront, function, hfunction,
    (List.append_assoc _ _ _).symm⟩

/-- Among the trees of an implementation the attribute stands where it was asked for. -/
theorem allowsCapitals_iff_of_forest (htrees : trees ∈ dispatch.forest argument) :
    AllowsCapitals trees ↔ dispatch.allowsCapitals = true := by
  obtain ⟨head, opening, closing, front, hfront, function, hfunction, rfl⟩ :=
    exists_content_of_forest htrees
  rw [Dispatch.allowForest] at hfront
  split at hfront
  · rename_i hallows
    exact iff_of_true
      ⟨head, opening, closing, front, function, rfl, hfront, word_of_function hfunction⟩ hallows
  · rename_i hnone
    refine iff_of_false ?_ hnone
    rintro ⟨other, first, last, leave, behind, hsame, hleave, _⟩
    rw [Language.mem_one] at hfront
    subst hfront
    -- The last tree is the same group, and starts with a word in the one and a mark in the other.
    have hgroup := List.cons.inj (List.append_inj_right' hsame rfl)
    have hinner : function = leave ++ behind := by
      injection hgroup.1
    obtain ⟨_, ⟨joint, hash, rfl⟩, _, _, rfl⟩ := Language.mem_mul.mp hleave
    have hword := word_of_function hfunction
    rw [hinner] at hword
    cases hword

end Trees

/-! ## The attribute of a set -/

section Sets

variable {set : EventSet}

theorem hasCapitals_iff : set.hasCapitals = true ↔
    ∃ variant ∈ set.variants, ∃ field ∈ variant.fields, Name.isSnakeCase field.ident = false := by
  simp [EventSet.hasCapitals]

theorem eq_ofIdent_of_mem {declaration : Declaration} {variant : Variant} {field : Field}
    (hset : declaration.eventSet? = some set) (hvariant : variant ∈ set.variants)
    (hfield : field ∈ variant.fields) : field = Field.ofIdent field.ident := by
  rw [Declaration.fields_eq_map_ofIdent hset hvariant, List.mem_map] at hfield
  obtain ⟨ident, _, rfl⟩ := hfield
  rfl

end Sets

/-- Some key differs from the identifier of its field, the raw marker aside, or the identifier
has a capital without a lower case. -/
def EventSet.NeedsLeave (set : EventSet) : Prop :=
  ∃ variant ∈ set.variants, ∃ field ∈ variant.fields,
    field.key ≠ Name.unraw field.ident ∨ Name.HasBareCapital field.ident

theorem hasCapitals_iff_needsLeave {set : EventSet}
    (hderived : ∀ variant ∈ set.variants, ∀ field ∈ variant.fields,
      field = Field.ofIdent field.ident) :
    set.hasCapitals = true ↔ set.NeedsLeave := by
  rw [hasCapitals_iff, EventSet.NeedsLeave]
  refine exists_congr fun variant => and_congr_right fun hvariant => ?_
  refine exists_congr fun field => and_congr_right fun hfield => ?_
  have hkey : field.key = Name.snakeCase field.ident :=
    congrArg Field.key (hderived variant hvariant field hfield)
  rw [Name.isSnakeCase_eq_false_iff, hkey]

/-! ## Main result -/

/-- A name has no capital exactly if the conversion leaves it, its raw marker aside, and none of
its capitals is without a lower case.  So where code is generated for a set with derived keys,
the function of the implementation has leave for capitals exactly if some key differs from the
identifier of its field or some identifier has a capital without a lower case; and wherever
the generated text can be read, the attribute is found there. -/
theorem allowsCapitals_iff_of_artifact :
    (∀ name : String, Name.isSnakeCase name = true ↔
      Name.snakeCase name = Name.unraw name ∧ ¬ Name.HasBareCapital name) ∧
    ∀ (set : EventSet) (settings : Settings) (printer : ArgumentPrinter) (artifact : Artifact),
      (∀ variant ∈ set.variants, ∀ field ∈ variant.fields, field = Field.ofIdent field.ident) →
      set.artifact settings printer = .ok artifact →
      ∃ dispatch, set.dispatch settings = .ok dispatch ∧
        artifact.source = dispatch.render settings printer ∧
        (dispatch.allowsCapitals = true ↔ set.NeedsLeave) ∧
        ((∀ reference ∈ dispatch.references, reference.arguments = []) →
          dispatch.Prints printer) ∧
        (dispatch.Prints printer → Dispatch.hasStrayReturn (set.summary settings) = false →
          ∃ trees, Tree.ofText artifact.source.toList 1 = .ok trees ∧
            (AllowsCapitals trees ↔ set.NeedsLeave)) := by
  refine ⟨fun name => Name.isSnakeCase_iff, fun set settings printer artifact hderived hartifact =>
    ?_⟩
  obtain ⟨dispatch, hdispatch, hsource⟩ := exists_dispatch_of_artifact hartifact
  have hallows : dispatch.allowsCapitals = true ↔ set.NeedsLeave := by
    rw [(of_dispatch hdispatch).allowsCapitals, hasCapitals_iff_needsLeave hderived]
  refine ⟨dispatch, hdispatch, hsource, hallows, prints_of_plain printer,
    fun hprints hreturn => ?_⟩
  obtain ⟨trees, htrees, hread⟩ := exists_trees_render hdispatch hprints hreturn
  exact ⟨trees, hsource ▸ hread, (allowsCapitals_iff_of_forest htrees).trans hallows⟩

/-- A set whose one field is called by a capital without a lower case. -/
def plane : Declaration where
  name := "Plane"
  path := "chart::Plane"
  kind := .enum
  modality := .closed
  markers := ["analytics_event"]
  generic := false
  members := [
    { name := "Plotted", parent := none, fields := .named ["\u2102"]
      origin := ⟨"chart.rs", some 2⟩ }]
  origin := ⟨"chart.rs", some 1⟩

/-- The gestures have one field whose key is not its identifier, and the raw one is not it. -/
theorem allowsCapitals_gestures :
    ∃ set artifact, gestures.eventSet? = some set ∧ set.artifact .standard = .ok artifact ∧
      (∀ variant ∈ set.variants, ∀ field ∈ variant.fields, field = Field.ofIdent field.ident) ∧
      set.NeedsLeave ∧
      ∃ trees, Tree.ofText artifact.source.toList 1 = .ok trees ∧ AllowsCapitals trees := by
  obtain ⟨set, hset⟩ : ∃ set, gestures.eventSet? = some set :=
    Option.isSome_iff_exists.mp (by decide +kernel)
  obtain ⟨artifact, hartifact⟩ : ∃ artifact, set.artifact .standard = .ok artifact := by
    apply exists_artifact
    obtain ⟨_, rfl⟩ := Declaration.eventSet?_eq_some_iff.mp hset
    decide +kernel
  have hderived : ∀ variant ∈ set.variants, ∀ field ∈ variant.fields,
      field = Field.ofIdent field.ident :=
    fun variant hvariant field hfield => eq_ofIdent_of_mem hset hvariant hfield
  obtain ⟨dispatch, hdispatch, _, _, hprints, hread⟩ :=
    allowsCapitals_iff_of_artifact.2 set .standard plainArgument artifact hderived hartifact
  have hplain : (gestures.eventSet?.bind fun set => (set.dispatch .standard).toOption.map
      fun dispatch => dispatch.references.all fun reference => reference.arguments.isEmpty) =
        some true := by
    decide +kernel
  rw [hset, Option.bind_some, hdispatch] at hplain
  have hnone : ∀ reference ∈ dispatch.references, reference.arguments = [] :=
    fun reference hreference => List.isEmpty_iff.mp
      (List.all_eq_true.mp (Option.some.inj hplain) reference hreference)
  obtain ⟨_, hvalue⟩ := Declaration.eventSet?_eq_some_iff.mp hset
  have hneeds : set.NeedsLeave := by
    rw [← hasCapitals_iff_needsLeave hderived, hvalue]
    decide +kernel
  obtain ⟨trees, htrees, hallows⟩ := hread (hprints hnone) (by rw [hvalue]; decide +kernel)
  exact ⟨set, artifact, hset, hartifact, hderived, hneeds, trees, htrees, hallows.mpr hneeds⟩

/-- The conversion leaves the capital, so that the key is the identifier, and yet the name has a
capital and the function has leave for it. -/
theorem bare_capital_needs_leave :
    ¬ (Name.isSnakeCase "\u2102" = true ↔ Name.snakeCase "\u2102" = Name.unraw "\u2102") ∧
      ∃ set dispatch, plane.eventSet? = some set ∧ set.dispatch .standard = .ok dispatch ∧
        (∀ variant ∈ set.variants, ∀ field ∈ variant.fields,
          field = Field.ofIdent field.ident ∧ field.key = Name.unraw field.ident) ∧
        dispatch.allowsCapitals = true := by
  have hkept : Name.snakeCase "\u2102" = Name.unraw "\u2102" := by decide +kernel
  have hcapital : Name.isSnakeCase "\u2102" = false := by decide +kernel
  obtain ⟨set, hset⟩ : ∃ set, plane.eventSet? = some set :=
    Option.isSome_iff_exists.mp (by decide +kernel)
  obtain ⟨_, hvalue⟩ := Declaration.eventSet?_eq_some_iff.mp hset
  obtain ⟨dispatch, hdispatch⟩ : ∃ dispatch, set.dispatch .standard = .ok dispatch := by
    simp only [← toOption_eq_some_iff, ← Option.isSome_iff_exists, hvalue]
    decide +kernel
  refine ⟨by rw [hkept, hcapital]; simp, set, dispatch, hset, hdispatch, ?_, ?_⟩
  · intro variant hvariant field hfield
    refine ⟨eq_ofIdent_of_mem hset hvariant hfield, ?_⟩
    have hkeys : ∀ variant ∈ set.variants, ∀ field ∈ variant.fields,
        field.key = Name.unraw field.ident := by
      rw [hvalue]
      decide +kernel
    exact hkeys variant hvariant field hfield
  · rw [(of_dispatch hdispatch).allowsCapitals, hvalue]
    decide +kernel

end EventDispatch
