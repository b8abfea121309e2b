import EventDispatch.Generator
import EventDispatch.Proofs.Result

/-!
# What becomes of the entries of a manifest

A manifest whose text can be taken apart is refused for one reason only: one of its members
sets both its fields and their number.  An entry among its own members is dropped before that
is looked at, so that it may set whatever it likes.  Members are looked at in the order in
which they are listed, and the first one at fault is named (`declarations_of_find?`).

If no member is at fault, each entry is read as one declaration.  `Entry.ReadAs` says what is
kept and what is normalised: the path is the name where it is left out, and members without
any field carry nothing, however they say so (`readAs_of_declaration`).
-/

namespace EventDispatch

namespace Manifest

/-! ## Members at fault -/

/-- A member of an entry other than the entry itself sets both its fields and their number. -/
def Entry.Contradicts (entry : Entry) (member : MemberEntry) : Prop :=
  member.name ≠ entry.name ∧ member.fields.isSome = true ∧ member.positional.isSome = true

instance (entry : Entry) (member : MemberEntry) : Decidable (entry.Contradicts member) :=
  inferInstanceAs (Decidable (_ ∧ _))

/-- The members that the entries list, each with its entry, in the order of the document. -/
def listed (entries : List Entry) : List (Entry × MemberEntry) :=
  entries.flatMap fun entry => entry.members.map (entry, ·)

/-- The first member at fault, with its entry. -/
def firstContradiction? (entries : List Entry) : Option (Entry × MemberEntry) :=
  (listed entries).find? fun (entry, member) => entry.Contradicts member

theorem mem_listed_iff {entries : List Entry} {entry : Entry} {member : MemberEntry} :
    (entry, member) ∈ listed entries ↔ entry ∈ entries ∧ member ∈ entry.members := by
  unfold listed
  rw [List.mem_flatMap]
  constructor
  · rintro ⟨other, hother, hmember⟩
    obtain ⟨found, hfound, heq⟩ := List.mem_map.mp hmember
    cases heq
    exact ⟨hother, hfound⟩
  · rintro ⟨hentry, hmember⟩
    exact ⟨entry, hentry, List.mem_map_of_mem hmember⟩

theorem exists_contradicts_iff {entries : List Entry} :
    (∃ entry ∈ entries, ∃ member ∈ entry.members, entry.Contradicts member) ↔
      ∃ found, firstContradiction? entries = some found := by
  rw [firstContradiction?, ← Option.isSome_iff_exists, List.find?_isSome]
  constructor
  · rintro ⟨entry, hentry, member, hmember, hcontradicts⟩
    exact ⟨(entry, member), mem_listed_iff.mpr ⟨hentry, hmember⟩, decide_eq_true hcontradicts⟩
  · rintro ⟨⟨entry, member⟩, hlisted, hcontradicts⟩
    obtain ⟨hentry, hmember⟩ := mem_listed_iff.mp hlisted
    exact ⟨entry, hentry, member, hmember, of_decide_eq_true hcontradicts⟩

/-! ## One member -/

/-- How a member is read: its name and its parent are kept, and it carries the fields or the
number of fields that it sets unless there are none. -/
structure MemberEntry.Normalizes (file : String) (entry : MemberEntry) (member : Member) :
    Prop where
  name : member.name = entry.name
  parent : member.parent = entry.owner
  named_iff : ∀ names, member.fields = .named names ↔ entry.fields = some names ∧ names ≠ []
  positional_iff : ∀ count,
    member.fields = .positional count ↔ entry.positional = some count ∧ count ≠ 0
  origin : member.origin = { file, line := none }

theorem carried?_eq_none_iff {member : MemberEntry} :
    member.carried? = none ↔ member.fields.isSome = true ∧ member.positional.isSome = true := by
  unfold MemberEntry.carried?
  split <;> simp_all

/-- What a member carries, if its fields and their number are not set both. -/
theorem carried?_eq_some {member : MemberEntry} {fields : Fields}
    (hcarried : member.carried? = some fields) :
    (∀ names, fields = .named names ↔ member.fields = some names ∧ names ≠ []) ∧
      ∀ count, fields = .positional count ↔ member.positional = some count ∧ count ≠ 0 := by
  unfold MemberEntry.carried? at hcarried
  split at hcarried <;> cases hcarried <;> simp_all

theorem member_eq_error {file path : String} {member : MemberEntry}
    (hnone : member.carried? = none) :
    member.member file path = .error (.conflictingFields member.name path) := by
  rw [MemberEntry.member, hnone]

theorem exists_member_eq_ok {file path : String} {member : MemberEntry}
    (hcarries : member.carried? ≠ none) : ∃ found, member.member file path = .ok found := by
  obtain ⟨fields, hfields⟩ := Option.ne_none_iff_exists'.mp hcarries
  rw [MemberEntry.member, hfields]
  exact ⟨_, rfl⟩

theorem normalizes_of_member {file path : String} {entry : MemberEntry} {member : Member}
    (hmember : entry.member file path = .ok member) : entry.Normalizes file member := by
  unfold MemberEntry.member at hmember
  cases hcarried : entry.carried? with
  | none =>
      rw [hcarried] at hmember
      cases hmember
  | some fields =>
      rw [hcarried] at hmember
      cases hmember
      obtain ⟨hnamed, hpositional⟩ := carried?_eq_some hcarried
      exact { name := rfl, parent := rfl, named_iff := hnamed, positional_iff := hpositional,
              origin := rfl }

/-! ## One entry -/

/-- How an entry is read: as a declaration of its own members, whose path is its name if it
gives none. -/
structure Entry.ReadAs (file : String) (entry : Entry) (declaration : Declaration) : Prop where
  name : declaration.name = entry.name
  path : declaration.path = entry.path.getD entry.name
  kind : declaration.kind = entry.kind
  modality : declaration.modality = entry.modality
  markers : declaration.markers = entry.markers
  generic : declaration.generic = entry.generic
  members : List.Forall₂ (MemberEntry.Normalizes file)
    (entry.members.filter fun member => member.name ≠ entry.name) declaration.members
  normal : ∀ member ∈ declaration.members,
    member.fields ≠ .named [] ∧ member.fields ≠ .positional 0
  origin : declaration.origin = { file, line := none }

theorem ownMembers_eq (entry : Entry) :
    entry.ownMembers = entry.members.filter fun member => member.name ≠ entry.name :=
  List.filter_congr fun member _ => by rw [Bool.eq_iff_iff]; simp

/-- The first member at fault decides. -/
theorem declaration_of_find? {file : String} {entry : Entry} {member : MemberEntry}
    (hfind : entry.members.find? (fun member => entry.Contradicts member) = some member) :
    entry.declaration file = .error (.conflictingFields member.name entry.fullPath) := by
  -- An entry under the name of the declaration is no member of it, and cannot be at fault.
  have hown : entry.ownMembers.find? (fun member => member.carried? = none) = some member := by
    rw [ownMembers_eq, List.find?_filter, ← hfind]
    congr 1
    funext other
    rw [Bool.eq_iff_iff, decide_eq_true_iff (p := entry.Contradicts other), Entry.Contradicts,
      ← carried?_eq_none_iff]
    simp
  rw [List.find?_eq_findSome?_guard] at hown
  -- The members before the first one at fault are read without an error.
  have hmembers : entry.ownMembers.mapM (MemberEntry.member file entry.fullPath) =
      .error (.conflictingFields member.name entry.fullPath) := by
    refine mapM_eq_error_of_findSome?
      (fun member : MemberEntry => Fault.conflictingFields member.name entry.fullPath) ?_ ?_ hown
    · intro other hcarries
      exact exists_member_eq_ok (by simpa [Option.guard] using hcarries)
    · intro other found hboth
      obtain ⟨rfl, hnone⟩ := Option.guard_eq_some_iff.mp hboth
      exact member_eq_error (of_decide_eq_true hnone)
  unfold Entry.declaration
  rw [hmembers]
  rfl

theorem exists_declaration (file : String) {entry : Entry}
    (hnone : ∀ member ∈ entry.members, ¬ entry.Contradicts member) :
    ∃ declaration, entry.declaration file = .ok declaration := by
  have hmembers : ∃ members,
      entry.ownMembers.mapM (MemberEntry.member file entry.fullPath) = .ok members := by
    refine exists_mapM_iff.mpr fun member hmember => exists_member_eq_ok fun hcarried => ?_
    rw [ownMembers_eq, List.mem_filter, decide_eq_true_iff] at hmember
    exact hnone member hmember.1 ⟨hmember.2, carried?_eq_none_iff.mp hcarried⟩
  obtain ⟨members, hmembers⟩ := hmembers
  unfold Entry.declaration
  rw [hmembers]
  exact ⟨_, rfl⟩

theorem readAs_of_declaration {file : String} {entry : Entry} {declaration : Declaration}
    (hdeclaration : entry.declaration file = .ok declaration) : entry.ReadAs file declaration := by
  obtain ⟨members, hmembers, hrest⟩ := bind_eq_ok_iff.mp hdeclaration
  cases hrest
  have hrelated : List.Forall₂ (MemberEntry.Normalizes file) entry.ownMembers members :=
    (mapM_eq_ok_iff.mp hmembers).imp fun _ _ => normalizes_of_member
  refine {
    name := rfl
    path := rfl
    kind := rfl
    modality := rfl
    markers := rfl
    generic := rfl
    members := ownMembers_eq entry ▸ hrelated
    normal := fun member hmember => ?_
    origin := rfl }
  obtain ⟨other, -, hnormalizes⟩ := exists_rel_of_mem hrelated hmember
  exact ⟨fun hnamed => ((hnormalizes.named_iff []).mp hnamed).2 rfl,
    fun hpositional => ((hnormalizes.positional_iff 0).mp hpositional).2 rfl⟩

/-! ## All entries -/

theorem firstContradiction?_eq_findSome? (entries : List Entry) :
    firstContradiction? entries = entries.findSome? fun entry =>
      (entry.members.find? fun member => entry.Contradicts member).map (entry, ·) := by
  rw [firstContradiction?, listed, List.find?_flatMap]
  congr 1
  funext entry
  rw [List.find?_map]
  rfl

/-- The entries in front of the first member at fault are read, and that one decides. -/
theorem mapM_declaration_of_first {file : String} {entries : List Entry} {entry : Entry}
    {member : MemberEntry} (hfirst : firstContradiction? entries = some (entry, member)) :
    entries.mapM (Entry.declaration file) =
      .error (.conflictingFields member.name entry.fullPath) := by
  rw [firstContradiction?_eq_findSome?] at hfirst
  refine mapM_eq_error_of_findSome? (fun found : Entry × MemberEntry =>
    Fault.conflictingFields found.2.name found.1.fullPath) ?_ ?_ hfirst
  · intro other hfind
    rw [Option.map_eq_none_iff, List.find?_eq_none] at hfind
    exact exists_declaration file fun member hmember hfault =>
      hfind member hmember (decide_eq_true hfault)
  · rintro other found hfind
    obtain ⟨member, hmember, rfl⟩ := Option.map_eq_some_iff.mp hfind
    exact declaration_of_find? hmember

theorem exists_mapM_declaration (file : String) {entries : List Entry}
    (hnone : firstContradiction? entries = none) :
    ∃ declarations, entries.mapM (Entry.declaration file) = .ok declarations := by
  refine exists_mapM_iff.mpr fun entry hentry => exists_declaration file ?_
  intro member hmember hfault
  obtain ⟨found, hfound⟩ := exists_contradicts_iff.mp ⟨entry, hentry, member, hmember, hfault⟩
  rw [hnone] at hfound
  cases hfound

theorem declarations_of_entries {file source : String} {entries : List Entry}
    (hentries : Manifest.entries source = .ok entries) :
    declarations file source = entries.mapM (Entry.declaration file) := by
  rw [declarations, hentries]
  rfl

end Manifest

open Manifest in
/-- A manifest that can be taken apart into entries is refused exactly if a member other than
the entry itself sets both its fields and their number, and what is said about it is about the
first one in the document.  Otherwise each entry is read as one declaration, in order. -/
theorem Generator.readManifest_normalizes {source : String} (origin : String) {entries : List Entry}
    (hentries : Manifest.entries source = .ok entries) :
    let result := (readManifest source origin).result
    ((∃ failure, result = .error failure) ↔
        ∃ entry ∈ entries, ∃ member ∈ entry.members, entry.Contradicts member) ∧
      (∀ entry member, firstContradiction? entries = some (entry, member) →
        result = .error (.manifest origin (some ("member " ++ member.name ++ " of " ++
          entry.path.getD entry.name ++ " sets both `fields` and `positional`")))) ∧
      ∀ declarations, result = .ok declarations →
        List.Forall₂ (Entry.ReadAs origin) entries declarations := by
  intro result
  have hresult : result = (entries.mapM (Entry.declaration origin)).mapError fun fault =>
      .manifest origin (fault.reason? source) := by
    rw [← declarations_of_entries hentries]
    rfl
  have hrefused : ∀ entry member, firstContradiction? entries = some (entry, member) →
      result = .error (.manifest origin (some ("member " ++ member.name ++ " of " ++
        entry.path.getD entry.name ++ " sets both `fields` and `positional`"))) := by
    intro entry member hfirst
    rw [hresult, mapM_declaration_of_first hfirst]
    rfl
  refine ⟨?_, hrefused, ?_⟩
  · rw [exists_contradicts_iff]
    constructor
    · rintro ⟨failure, hfailure⟩
      by_contra hnone
      rw [← Option.isSome_iff_exists, Option.not_isSome_iff_eq_none] at hnone
      obtain ⟨declarations, hdeclarations⟩ := exists_mapM_declaration origin hnone
      rw [hresult, hdeclarations] at hfailure
      cases hfailure
    · rintro ⟨⟨entry, member⟩, hfirst⟩
      exact ⟨_, hrefused entry member hfirst⟩
  · intro declarations hread
    rw [hresult, mapError_eq_ok_iff, mapM_eq_ok_iff] at hread
    exact hread.imp fun _ _ => readAs_of_declaration

/-- The first entry lists itself with both, which is nobody's fault; the second one has two
members that are at fault. -/
def crossedManifest : String :=
  "declaration=[\x7bname=\"T\",member=[\x7bname=\"T\",fields=[],positional=1\x7d]\x7d," ++
    "\x7bname=\"K\",path=\"u::K\",member=[\x7bname=\"D\",fields=[],positional=0\x7d," ++
    "\x7bname=\"L\",fields=[\"b\"],positional=2\x7d]\x7d]"

/-- What is read from `crossedManifest`. -/
def crossedEntries : List Manifest.Entry :=
  let entry := { name := "T", path := none, kind := .enum, modality := .closed, markers := [],
                 generic := false, members := [
    { name := "T", owner := none, fields := some [], positional := some 1 }] }
  [entry, { entry with name := "K", path := some "u::K", members := [
    { name := "D", owner := none, fields := some [], positional := some 0 },
    { name := "L", owner := none, fields := some ["b"], positional := some 2 }] }]

theorem readManifest_crossed :
    Manifest.entries crossedManifest = .ok crossedEntries ∧
      (Generator.readManifest crossedManifest "k.toml").result = .error (.manifest "k.toml"
        (some "member D of u::K sets both `fields` and `positional`")) := by
  have hentries : Manifest.entries crossedManifest = .ok crossedEntries := by
    decide +kernel
  have hfirst : ∃ entry member, Manifest.firstContradiction? crossedEntries =
      some (entry, member) ∧ entry.path = some "u::K" ∧ member.name = "D" :=
    ⟨_, _, rfl, rfl, rfl⟩
  obtain ⟨entry, member, hfirst, hpath, hname⟩ := hfirst
  have hrefused :=
    (Generator.readManifest_normalizes "k.toml" hentries).2.1 entry member hfirst
  rw [hpath, hname] at hrefused
  exact ⟨hentries, hrefused⟩

end EventDispatch
