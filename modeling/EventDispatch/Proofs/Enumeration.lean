import EventDispatch.EventSet.Enumeration
import EventDispatch.Proofs.EventSet
import Mathlib.Data.List.Forall2

/-!
# A pass over members tells them apart

A member conforms if it belongs to the declaration and its fields are not positional.
The pass of `Declaration.enumerate` looks at the two conditions one behind the other and
keeps three accounts: the events, whether something was left out, and the notes.

`visit_of_lists`, `visit_of_positional` and `visit_of_foreign` say what one member adds
to the accounts, and `foldl_visit` what all of them add, whatever was there before.  So
the pass gives the same set and the same warnings as the judgements one by one
(`enumerate_eq`), and every member is either an event or has one warning
(`enumerate_partitions`).
-/

namespace EventDispatch

/-! ## Members that conform -/

namespace Member

/-- The member belongs to the declaration: it has no parent, or one that is the
declaration's name or its path. -/
def Extends (member : Member) (declaration : Declaration) : Prop :=
  member.parent = none ∨ member.parent = some declaration.name ∨
    member.parent = some declaration.path

/-- The member belongs to the declaration, and its fields are not positional. -/
def Conforms (member : Member) (declaration : Declaration) : Prop :=
  member.Extends declaration ∧ member.fields.isPositional = false

instance (member : Member) (declaration : Declaration) :
    Decidable (member.Extends declaration) :=
  inferInstanceAs (Decidable (_ ∨ _ ∨ _))

instance (member : Member) (declaration : Declaration) :
    Decidable (member.Conforms declaration) :=
  inferInstanceAs (Decidable (_ ∧ _))

variable {member : Member} {declaration : Declaration}

theorem owns_iff : declaration.owns member = true ↔ member.Extends declaration := by
  unfold Declaration.owns Extends
  cases member.parent <;> simp

theorem lists_iff_conforms : declaration.lists member = true ↔ member.Conforms declaration := by
  rw [Declaration.lists, Conforms, ← owns_iff]
  simp

end Member

/-- The diagnostic is a warning about the subject that stands at the origin. -/
def Diagnostic.WarnsOf (diagnostic : Diagnostic) (subject : String) (origin : Origin) : Prop :=
  diagnostic.severity = .warning ∧ diagnostic.subject = some subject ∧
    diagnostic.location = some origin.describe

/-! ## One member -/

section One

variable {declaration : Declaration} {member : Member} {pass : Enumeration}

theorem visit_of_lists (hlists : declaration.lists member = true) :
    pass.visit declaration member =
      { pass with
        variants := pass.variants ++ [Declaration.variantOf member member.fields.names]
        notes := pass.notes.record (declaration.memberRecord member) } := by
  obtain ⟨howns, hnamed⟩ := Declaration.lists_iff.mp hlists
  have hjudge := Declaration.judge_of_lists hlists
  cases hfields : member.fields with
  | unit =>
      simp [Enumeration.visit, Enumeration.list, Declaration.memberRecord, hjudge, howns, hfields,
        Fields.names, Declaration.variantOf]
  | named names =>
      simp [Enumeration.visit, Enumeration.list, Declaration.memberRecord, hjudge, howns, hfields,
        Fields.names, Declaration.variantOf]
  | positional count => exact absurd hfields (hnamed count)

theorem visit_of_positional {count : Nat} (howns : declaration.owns member = true)
    (hfields : member.fields = .positional count) :
    pass.visit declaration member =
      { pass with
        hasUnlisted := true
        notes := pass.notes.report (declaration.positionalWarning member count) } := by
  simp [Enumeration.visit, howns, hfields]

theorem visit_of_foreign (howns : declaration.owns member = false) :
    pass.visit declaration member =
      { pass with notes := pass.notes.report (declaration.foreignWarning member) } := by
  simp [Enumeration.visit, howns]

/-- A member that is no event has one warning, about itself. -/
theorem exists_memberWarning (hlists : declaration.lists member = false) :
    ∃ warning, declaration.memberWarning? member = some warning ∧
      warning.WarnsOf (declaration.memberPath member) member.origin := by
  obtain hforeign | ⟨count, hpositional⟩ := Declaration.judge_of_not_lists hlists
  · exact ⟨declaration.foreignWarning member, by rw [Declaration.memberWarning?, hforeign],
      rfl, rfl, rfl⟩
  · exact ⟨declaration.positionalWarning member count,
      by rw [Declaration.memberWarning?, hpositional], rfl, rfl, rfl⟩

theorem memberWarning?_of_lists (hlists : declaration.lists member = true) :
    declaration.memberWarning? member = none := by
  rw [Declaration.memberWarning?, Declaration.judge_of_lists hlists]

/-- A declaration without events has one warning, about itself. -/
theorem exists_emptyWarning (hset : declaration.eventSet? = none) :
    ∃ warning, declaration.emptyWarning? = some warning ∧
      warning.WarnsOf declaration.path declaration.origin := by
  have hvariants : declaration.variants = [] :=
    Declaration.variants_eq_nil_iff.mpr (Declaration.eventSet?_eq_none_iff.mp hset)
  rw [Declaration.emptyWarning?, hvariants]
  exact ⟨_, rfl, rfl, rfl, rfl⟩

end One

/-! ## All members -/

section All

variable (declaration : Declaration)

/-- What the members add to a pass.  The induction is on the members; the pass is
arbitrary, since each member adds to what those before it have left. -/
theorem foldl_visit (members : List Member) (pass : Enumeration) :
    members.foldl (Enumeration.visit declaration) pass = {
      variants := pass.variants ++ (members.filter declaration.lists).map fun member =>
        Declaration.variantOf member member.fields.names
      hasUnlisted := pass.hasUnlisted ||
        members.any fun member => declaration.owns member && member.fields.isPositional
      notes := {
        diagnostics := pass.notes.diagnostics ++ members.filterMap declaration.memberWarning?
        records := pass.notes.records ++ members.map declaration.memberRecord } } := by
  induction members generalizing pass with
  | nil => simp
  | cons member rest ih =>
      rw [List.foldl_cons, ih]
      cases hlists : declaration.lists member with
      | true =>
          have hnamed : (declaration.owns member && member.fields.isPositional) = false := by
            have hboth := hlists
            rw [Declaration.lists, Bool.and_eq_true] at hboth
            simpa using fun _ => hboth.2
          rw [visit_of_lists hlists]
          simp [hlists, hnamed, memberWarning?_of_lists hlists, Notes.record]
      | false =>
          cases howns : declaration.owns member with
          | true =>
              obtain ⟨count, hfields⟩ := Declaration.exists_positional_of_not_lists howns hlists
              have hjudge := Declaration.judge_of_positional howns hfields
              rw [visit_of_positional howns hfields]
              simp [hlists, howns, hfields, Fields.isPositional, Notes.report,
                Declaration.memberWarning?, Declaration.memberRecord, hjudge]
          | false =>
              have hjudge := Declaration.judge_of_not_owns howns
              rw [visit_of_foreign howns]
              simp [hlists, howns, Notes.report, Declaration.memberWarning?,
                Declaration.memberRecord, hjudge]

theorem hasUnlisted_eq_any :
    declaration.hasUnlisted =
      declaration.members.any fun member =>
        declaration.owns member && member.fields.isPositional := by
  rw [Bool.eq_iff_iff, Declaration.hasUnlisted_iff, List.any_eq_true]
  refine exists_congr fun member => and_congr_right fun _ => ?_
  cases member.fields <;> simp [Fields.isPositional]

/-- The pass finds what the judgements about the members say, and leaves the notes
that were there before as they were. -/
theorem enumerate_eq (notes : Notes) :
    declaration.enumerate notes = (declaration.eventSet?, {
      diagnostics := notes.diagnostics ++ declaration.eventSetWarnings
      records := notes.records ++ declaration.eventSetRecords }) := by
  have hvariants := Declaration.variants_eq_map_filter declaration
  have hunlisted := hasUnlisted_eq_any declaration
  simp only [Declaration.enumerate, foldl_visit, Enumeration.start, List.nil_append,
    Bool.false_or, ← hvariants, ← hunlisted]
  cases hnone : declaration.variants with
  | nil =>
      simp [Declaration.eventSet?, Declaration.eventSetWarnings, Declaration.eventSetRecords,
        Declaration.emptyWarning?, hnone, Notes.report]
  | cons variant rest =>
      simp [Declaration.eventSet?, Declaration.eventSetWarnings, Declaration.eventSetRecords,
        Declaration.emptyWarning?, hnone]

/-- The members without an event and the warnings about members, side by side. -/
theorem forall₂_memberWarnings (members : List Member) :
    List.Forall₂ (fun member warning =>
        warning.WarnsOf (declaration.memberPath member) member.origin)
      (members.filter fun member => !declaration.lists member)
      (members.filterMap declaration.memberWarning?) := by
  induction members with
  | nil => exact .nil
  | cons member rest ih =>
      cases hlists : declaration.lists member with
      | true =>
          rw [List.filter_cons_of_neg (by simp [hlists]),
            List.filterMap_cons_none (memberWarning?_of_lists hlists)]
          exact ih
      | false =>
          obtain ⟨warning, hwarning, hwarns⟩ := exists_memberWarning hlists
          rw [List.filter_cons_of_pos (by simp [hlists]), List.filterMap_cons_some hwarning]
          exact .cons hwarns ih

end All

/-! ## Main result -/

/-- Enumerating a declaration, with whatever was noted before, gives no set exactly when
no member conforms.  A set has the conforming members for events, in their order, each
with the converted name and the fields as written under their converted names; it counts
as incomplete exactly when a member of the declaration's own is positional.  The
diagnostics grow by one warning for each member that does not conform, in their order,
and by one about the declaration at the end when there is no set.  So events and
warnings about members are as many as the members. -/
theorem enumerate_partitions (declaration : Declaration) (notes : Notes) :
    ∃ memberWarnings ownWarnings,
      (declaration.enumerate notes).2.diagnostics =
        notes.diagnostics ++ memberWarnings ++ ownWarnings ∧
      List.Forall₂ (fun member warning =>
          warning.WarnsOf (declaration.path ++ "::" ++ member.name) member.origin)
        (declaration.members.filter fun member => ¬ member.Conforms declaration)
        memberWarnings ∧
      ((declaration.enumerate notes).1 = none ↔
        ∀ member ∈ declaration.members, ¬ member.Conforms declaration) ∧
      ((declaration.enumerate notes).1 = none →
        ∃ warning, ownWarnings = [warning] ∧
          warning.WarnsOf declaration.path declaration.origin) ∧
      (∀ set, (declaration.enumerate notes).1 = some set →
        ownWarnings = [] ∧ set.name = declaration.name ∧ set.path = declaration.path ∧
        set.variants =
          (declaration.members.filter fun member => member.Conforms declaration).map
            (fun member => {
              name := member.name
              eventName := Name.snakeCase member.name
              fields := member.fields.names.map fun ident =>
                { ident, key := Name.paramKey ident } }) ∧
        (set.hasUnlisted = true ↔ ∃ member ∈ declaration.members,
          member.Extends declaration ∧ ∃ count, member.fields = .positional count)) ∧
      (((declaration.enumerate notes).1.map fun set => set.variants.length).getD 0 +
        memberWarnings.length = declaration.members.length) := by
  have hlists : declaration.lists = fun member => decide (member.Conforms declaration) := by
    funext member
    rw [Bool.eq_iff_iff, Member.lists_iff_conforms, decide_eq_true_iff]
  have hwarnings := forall₂_memberWarnings declaration declaration.members
  have hcount : declaration.variants.length +
      (declaration.members.filterMap declaration.memberWarning?).length =
        declaration.members.length := by
    rw [Declaration.variants_eq_map_filter, List.length_map, ← hwarnings.length_eq]
    exact (List.length_eq_length_filter_add declaration.lists).symm
  rw [enumerate_eq]
  refine ⟨declaration.members.filterMap declaration.memberWarning?,
    declaration.emptyWarning?.toList, ?_, ?_, ?_, ?_, ?_, ?_⟩
  · rw [Declaration.eventSetWarnings, List.append_assoc]
  · simpa only [hlists, decide_not, Declaration.memberPath] using hwarnings
  · rw [Declaration.eventSet?_eq_none_iff]
    simp [hlists]
  · intro hnone
    obtain ⟨warning, hwarning, hwarns⟩ := exists_emptyWarning hnone
    exact ⟨warning, by rw [hwarning]; rfl, hwarns⟩
  · intro set hset
    obtain ⟨hvariants, rfl⟩ := Declaration.eventSet?_eq_some_iff.mp hset
    refine ⟨by simp [Declaration.emptyWarning?, hvariants], rfl, rfl, ?_, ?_⟩
    · rw [Declaration.variants_eq_map_filter, hlists]
      rfl
    · simp only [Declaration.hasUnlisted_iff, Member.owns_iff]
  · rw [← hcount]
    cases hset : declaration.eventSet? with
    | none =>
        have hvariants :=
          Declaration.variants_eq_nil_iff.mpr (Declaration.eventSet?_eq_none_iff.mp hset)
        simp [hvariants]
    | some set =>
        obtain ⟨_, rfl⟩ := Declaration.eventSet?_eq_some_iff.mp hset
        rfl

end EventDispatch
