import Mathlib.Data.List.Basic
import EventDispatch.EventSet

/-!
# Which members become events

`Declaration.judge` looks at two things, whose the member is and whether its
fields have names.  `Declaration.lists` is the conjunction of the two, and the
event set of a declaration is read off it:

* `variants_eq_map_filter`: the events are the listed members in their order,
  each with the names of its fields;
* `eventSet?_eq_some_iff` and `eventSet?_eq_none_iff`: there is a set as soon as
  one member is listed;
* `hasUnlisted_iff`: the set is marked as incomplete when a member of the
  declaration's own has positional fields.
-/

namespace EventDispatch

/-- The names of the fields that have names. -/
def Fields.names : Fields → List String
  | .named names => names
  | _ => []

/-- The fields are told apart by their positions. -/
def Fields.isPositional : Fields → Bool
  | .positional _ => true
  | _ => false

namespace Declaration

variable {declaration : Declaration} {member : Member}

/-- The member is an event of the declaration: one of its own whose fields are
not positional. -/
def lists (declaration : Declaration) (member : Member) : Bool :=
  declaration.owns member && !member.fields.isPositional

/-! ## One member -/

theorem lists_iff : declaration.lists member = true ↔
    declaration.owns member = true ∧ ∀ count, member.fields ≠ .positional count := by
  unfold lists
  cases member.fields <;> simp [Fields.isPositional]

theorem judge_of_lists (hlists : declaration.lists member = true) :
    declaration.judge member = .listed (variantOf member member.fields.names) := by
  obtain ⟨howns, hnamed⟩ := lists_iff.mp hlists
  cases hfields : member.fields with
  | unit => simp [judge, howns, hfields, Fields.names]
  | named names => simp [judge, howns, hfields, Fields.names]
  | positional count => exact absurd hfields (hnamed count)

theorem judge_of_positional {count : Nat} (howns : declaration.owns member = true)
    (hfields : member.fields = .positional count) :
    declaration.judge member = .positional count := by
  simp [judge, howns, hfields]

theorem judge_of_not_owns (howns : declaration.owns member = false) :
    declaration.judge member = .foreign := by
  simp [judge, howns]

theorem exists_positional_of_not_lists (howns : declaration.owns member = true)
    (hlists : declaration.lists member = false) :
    ∃ count, member.fields = .positional count := by
  cases hfields : member.fields with
  | unit => simp [lists, howns, hfields, Fields.isPositional] at hlists
  | named names => simp [lists, howns, hfields, Fields.isPositional] at hlists
  | positional count => exact ⟨count, rfl⟩

/-- A member that is not listed is foreign or positional. -/
theorem judge_of_not_lists (hlists : declaration.lists member = false) :
    declaration.judge member = .foreign ∨ ∃ count, declaration.judge member = .positional count := by
  cases howns : declaration.owns member with
  | false => exact .inl (judge_of_not_owns howns)
  | true =>
      obtain ⟨count, hfields⟩ := exists_positional_of_not_lists howns hlists
      exact .inr ⟨count, judge_of_positional howns hfields⟩

/-! ## All members -/

/-- The events are the listed members in their order. -/
theorem variants_eq_map_filter (declaration : Declaration) :
    declaration.variants =
      (declaration.members.filter declaration.lists).map fun member =>
        variantOf member member.fields.names := by
  unfold variants
  induction declaration.members with
  | nil => rfl
  | cons member rest ih =>
      cases hlists : declaration.lists member with
      | true =>
          rw [List.filterMap_cons, judge_of_lists hlists, List.filter_cons_of_pos hlists,
            List.map_cons, ih]
      | false =>
          rw [List.filter_cons_of_neg (by simp [hlists]), ← ih, List.filterMap_cons]
          obtain hforeign | ⟨count, hpositional⟩ := judge_of_not_lists hlists
          · rw [hforeign]
          · rw [hpositional]

theorem variants_eq_nil_iff : declaration.variants = [] ↔
    ∀ member ∈ declaration.members, declaration.lists member = false := by
  rw [variants_eq_map_filter, List.map_eq_nil_iff, List.filter_eq_nil_iff]
  simp

theorem exists_member_of_mem_variants {variant : Variant}
    (hvariant : variant ∈ declaration.variants) :
    ∃ member ∈ declaration.members, declaration.lists member = true ∧
      variant = variantOf member member.fields.names := by
  rw [variants_eq_map_filter] at hvariant
  obtain ⟨member, hmember, rfl⟩ := List.mem_map.mp hvariant
  obtain ⟨hmem, hlists⟩ := List.mem_filter.mp hmember
  exact ⟨member, hmem, hlists, rfl⟩

theorem hasUnlisted_iff : declaration.hasUnlisted = true ↔
    ∃ member ∈ declaration.members, declaration.owns member = true ∧
      ∃ count, member.fields = .positional count := by
  unfold hasUnlisted
  rw [List.any_eq_true]
  refine exists_congr fun member => and_congr_right fun _ => ?_
  cases howns : declaration.owns member with
  | false => simp [judge_of_not_owns howns]
  | true => cases hfields : member.fields <;> simp [judge, howns, hfields]

/-! ## The set -/

theorem eventSet?_eq_some_iff {set : EventSet} : declaration.eventSet? = some set ↔
    declaration.variants ≠ [] ∧
      set = {
        name := declaration.name
        path := declaration.path
        hasUnlisted := declaration.hasUnlisted
        variants := declaration.variants } := by
  unfold eventSet?
  cases hvariants : declaration.variants with
  | nil => simp
  | cons variant rest => simp [eq_comm]

theorem eventSet?_eq_none_iff : declaration.eventSet? = none ↔
    ∀ member ∈ declaration.members, declaration.lists member = false := by
  rw [← variants_eq_nil_iff]
  unfold eventSet?
  cases hvariants : declaration.variants <;> simp

/-- Each field of an event is recorded under the key derived from its name. -/
theorem fields_eq_map_ofIdent {set : EventSet} {variant : Variant}
    (hset : declaration.eventSet? = some set) (hvariant : variant ∈ set.variants) :
    variant.fields = (variant.fields.map Field.ident).map Field.ofIdent := by
  obtain ⟨_, rfl⟩ := eventSet?_eq_some_iff.mp hset
  obtain ⟨member, _, _, rfl⟩ := exists_member_of_mem_variants hvariant
  simp [variantOf, Function.comp_def, Field.ofIdent]

end Declaration

end EventDispatch
