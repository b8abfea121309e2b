import EventDispatch.Proofs.Scalars

/-!
# The reader follows the grammar

The reader gives a value for exactly the texts that stand for it (`read?_eq_some_iff`), so that
no text stands for two values (`Denotes.unique`).  The two directions are apart.

* What is read is spelled (`sound`), by induction on the levels that the reader may go down.
* What is spelled is read (`reads_of_spells`), by induction on the grammar, with as many levels
  as twice the length of the text: each pair of brackets takes a level for the value and one
  for every element in it, and both are paid for by characters of the text.
-/

namespace EventDispatch.Text.Json

/-! ## What is read is spelled -/

theorem spells_of_word? {text rest : List Char} {value : Value}
    (hread : word? text = some (value, rest)) :
    ∃ front, Spells front (.value value) ∧ text = front ++ rest := by
  unfold word? at hread
  split at hread
  · cases hread
    exact ⟨_, .null, rfl⟩
  · cases hread
    exact ⟨_, .yes, rfl⟩
  · cases hread
    exact ⟨_, .no, rfl⟩
  · cases hread

/-- What the functions for values read with so many levels is spelled in the text. -/
structure Sound (levels : Nat) : Prop where
  value : ∀ {text rest : List Char} {value : Value}, value? levels text = some (value, rest) →
    ∃ front, Spells front (.value value) ∧ text = front ++ rest
  elements : ∀ {text rest : List Char} {values : List Value},
    elements? levels text = some (values, rest) →
      ∃ front, Spells front (.elements values) ∧ text = front ++ ']' :: rest
  members : ∀ {text rest : List Char} {entries : List (String × Value)},
    members? levels text = some (entries, rest) →
      ∃ front, Spells front (.members entries) ∧ text = front ++ '\x7d' :: rest

theorem elements?_skip (levels : Nat) (text : List Char) :
    elements? levels (skip text) = elements? levels text := by
  cases levels with
  | zero => rfl
  | succ levels => rw [elements?, elements?, skip_skip]

theorem members?_skip (levels : Nat) (text : List Char) :
    members? levels (skip text) = members? levels text := by
  cases levels with
  | zero => rfl
  | succ levels => rw [members?, members?, key?, key?, skip_skip]

variable {levels : Nat}

theorem Sound.value_succ (hsound : Sound levels) {text rest : List Char} {value : Value}
    (hread : value? (levels + 1) text = some (value, rest)) :
    ∃ front, Spells front (.value value) ∧ text = front ++ rest := by
  unfold value? at hread
  split at hread
  · obtain ⟨⟨found, behind⟩, hfound, hpair⟩ := Option.map_eq_some_iff.mp hread
    obtain ⟨rfl, rfl⟩ := Prod.mk.inj hpair
    obtain ⟨body, hbody, rfl⟩ := string?_eq_some_iff.mp hfound
    exact ⟨_, .string hbody, by simp⟩
  · rename_i text
    split at hread
    · rename_i heq
      obtain ⟨blanks, hblanks, htext⟩ := exists_blanks text
      cases hread
      rw [heq] at htext
      exact ⟨_, .emptyArray hblanks, by simp [htext]⟩
    · obtain ⟨⟨values, behind⟩, hvalues, hpair⟩ := Option.map_eq_some_iff.mp hread
      obtain ⟨rfl, rfl⟩ := Prod.mk.inj hpair
      rw [elements?_skip] at hvalues
      obtain ⟨front, hfront, rfl⟩ := hsound.elements hvalues
      exact ⟨_, .array hfront, by simp⟩
  · rename_i text
    split at hread
    · rename_i heq
      obtain ⟨blanks, hblanks, htext⟩ := exists_blanks text
      cases hread
      rw [heq] at htext
      exact ⟨_, .emptyObject hblanks, by simp [htext]⟩
    · obtain ⟨⟨entries, behind⟩, hentries, hpair⟩ := Option.map_eq_some_iff.mp hread
      obtain ⟨rfl, rfl⟩ := Prod.mk.inj hpair
      rw [members?_skip] at hentries
      obtain ⟨front, hfront, rfl⟩ := hsound.members hentries
      exact ⟨_, .object hfront, by simp⟩
  · rcases Option.or_eq_some_iff.mp hread with hword | ⟨-, hnumber⟩
    · exact spells_of_word? hword
    · obtain ⟨front, hfront, htext, -⟩ := number?_eq_some_iff.mp hnumber
      exact ⟨front, .number hfront, htext⟩

/-- A value between blanks is an element. -/
theorem Sound.element (hsound : Sound levels) {text behind : List Char} {value : Value}
    (hread : value? levels (skip text) = some (value, behind)) :
    ∃ front, Spells front (.element value) ∧ text = front ++ skip behind := by
  obtain ⟨before, hbefore, htext⟩ := exists_blanks text
  obtain ⟨after, hafter, hbehind⟩ := exists_blanks behind
  obtain ⟨body, hbody, hskip⟩ := hsound.value hread
  refine ⟨before ++ body ++ after, .element hbefore hbody hafter, ?_⟩
  rw [htext, hskip, List.append_assoc, List.append_assoc, ← hbehind]

theorem Sound.elements_succ (hsound : Sound levels) {text rest : List Char} {values : List Value}
    (hread : elements? (levels + 1) text = some (values, rest)) :
    ∃ front, Spells front (.elements values) ∧ text = front ++ ']' :: rest := by
  unfold elements? at hread
  obtain ⟨⟨value, behind⟩, hvalue, hnext⟩ := Option.bind_eq_some_iff.mp hread
  obtain ⟨front, hfront, htext⟩ := hsound.element hvalue
  simp only at hnext
  split at hnext
  · rename_i last hcomma
    obtain ⟨⟨others, left⟩, hothers, hpair⟩ := Option.bind_eq_some_iff.mp hnext
    obtain ⟨rfl, rfl⟩ := Prod.mk.inj (Option.some.inj hpair)
    obtain ⟨more, hmore, rfl⟩ := hsound.elements hothers
    exact ⟨_, .nextElement hfront hmore, by simp [htext, hcomma]⟩
  · rename_i last hbracket
    cases hnext
    exact ⟨front, .lastElement hfront, by rw [htext, hbracket]⟩
  · cases hnext

theorem Sound.members_succ (hsound : Sound levels) {text rest : List Char}
    {entries : List (String × Value)} (hread : members? (levels + 1) text = some (entries, rest)) :
    ∃ front, Spells front (.members entries) ∧ text = front ++ '\x7d' :: rest := by
  unfold members? at hread
  obtain ⟨⟨key, colon⟩, hkey, hread⟩ := Option.bind_eq_some_iff.mp hread
  obtain ⟨⟨value, behind⟩, hvalue, hnext⟩ := Option.bind_eq_some_iff.mp hread
  obtain ⟨before, body, middle, hbefore, hbody, hmiddle, htext⟩ := key?_eq_some_iff.mp hkey
  obtain ⟨front, hfront, hcolon⟩ := hsound.element hvalue
  have hmember := Spells.member hbefore hbody hmiddle hfront
  simp only at hnext
  split at hnext
  · rename_i last hcomma
    obtain ⟨⟨others, left⟩, hothers, hpair⟩ := Option.bind_eq_some_iff.mp hnext
    obtain ⟨rfl, rfl⟩ := Prod.mk.inj (Option.some.inj hpair)
    obtain ⟨more, hmore, rfl⟩ := hsound.members hothers
    exact ⟨_, .nextMember hmember hmore, by simp [htext, hcolon, hcomma]⟩
  · rename_i last hbrace
    cases hnext
    exact ⟨_, .lastMember hmember, by simp [htext, hcolon, hbrace]⟩
  · cases hnext

theorem sound (levels : Nat) : Sound levels := by
  induction levels with
  | zero => exact ⟨nofun, nofun, nofun⟩
  | succ levels ih => exact ⟨ih.value_succ, ih.elements_succ, ih.members_succ⟩

/-! ## What is spelled is read -/

theorem word?_eq_none {c : Char} (hc : isNumeral c = true) (rest : List Char) :
    word? (c :: rest) = none := by
  unfold word?
  split
  all_goals first | rfl | (rename_i heq; cases heq; cases hc)

theorem value?_of_number {text rest : List Char} {value : Value} (hnumber : Number text value)
    (hrest : Stops isNumeral rest) (levels : Nat) :
    value? (levels + 1) (text ++ rest) = some (value, rest) := by
  have hread : number? (text ++ rest) = some (value, rest) :=
    number?_eq_some_iff.mpr ⟨text, hnumber, rfl, hrest⟩
  obtain ⟨c, others, rfl, hc⟩ := exists_lead_of_number hnumber
  rw [← hread]
  unfold value?
  split
  · rename_i heq
    cases heq
    cases hc
  · rename_i heq
    cases heq
    cases hc
  · rename_i heq
    cases heq
    cases hc
  · rw [List.cons_append, word?_eq_none hc, Option.none_or]

/-- Reading the phrase from the front of a text leaves what stands behind it, if there are
levels enough and it is clear where the phrase ends. -/
def Reads (text : List Char) : Phrase → Prop
  | .value value => ∀ levels rest, 2 * text.length ≤ levels → Stops isNumeral rest →
      value? levels (text ++ rest) = some (value, rest)
  | .element value => ∀ levels rest, 2 * text.length ≤ levels → Stops isNumeral rest →
      ∃ left, value? levels (skip (text ++ rest)) = some (value, left) ∧ skip left = skip rest
  | .elements values => ∀ levels rest, 2 * text.length < levels →
      elements? levels (text ++ ']' :: rest) = some (values, rest)
  | .member key value => ∀ levels rest, 2 * text.length ≤ levels → Stops isNumeral rest →
      ∃ behind left, key? (text ++ rest) = some (key, behind) ∧
        value? levels (skip behind) = some (value, left) ∧ skip left = skip rest
  | .members entries => ∀ levels rest, 2 * text.length < levels →
      members? levels (text ++ '\x7d' :: rest) = some (entries, rest)

/-- A value begins with a character that is no blank and no end of an array. -/
theorem exists_lead_of_value {text : List Char} {value : Value}
    (hvalue : Spells text (.value value)) :
    ∃ c others, text = c :: others ∧ isBlank c = false ∧ c ≠ ']' := by
  cases hvalue with
  | number hnumber =>
      obtain ⟨c, others, rfl, hc⟩ := exists_lead_of_number hnumber
      refine ⟨c, others, rfl, ?_, ?_⟩
      · rw [Bool.eq_false_iff]
        intro hblank
        rw [isNumeral_of_isBlank hblank] at hc
        cases hc
      · rintro rfl
        cases hc
  | null | yes | no | string _ | emptyArray _ | array _ | emptyObject _ | object _ =>
      exact ⟨_, _, rfl, rfl, by decide⟩

theorem exists_lead_of_element {text : List Char} {value : Value}
    (helement : Spells text (.element value)) (rest : List Char) :
    ∃ c others, skip (text ++ rest) = c :: others ∧ c ≠ ']' := by
  cases helement with
  | @element front text back _ hfront hvalue hback =>
      obtain ⟨c, others, rfl, hblank, hc⟩ := exists_lead_of_value hvalue
      refine ⟨c, others ++ (back ++ rest), ?_, hc⟩
      rw [List.append_assoc, List.append_assoc, skip_append hfront]
      exact skip_cons hblank _

theorem exists_lead_of_elements {text : List Char} {values : List Value}
    (helements : Spells text (.elements values)) (rest : List Char) :
    ∃ c others, skip (text ++ rest) = c :: others ∧ c ≠ ']' := by
  cases helements with
  | lastElement helement => exact exists_lead_of_element helement rest
  | nextElement helement _ =>
      rw [List.append_assoc]
      exact exists_lead_of_element helement _

theorem exists_lead_of_member {text : List Char} {key : String} {value : Value}
    (hmember : Spells text (.member key value)) (rest : List Char) :
    ∃ others, skip (text ++ rest) = '"' :: others := by
  cases hmember with
  | member hfront _ _ _ =>
      rw [List.append_assoc, skip_append hfront]
      exact ⟨_, skip_cons rfl _⟩

theorem exists_lead_of_members {text : List Char} {entries : List (String × Value)}
    (hmembers : Spells text (.members entries)) (rest : List Char) :
    ∃ others, skip (text ++ rest) = '"' :: others := by
  cases hmembers with
  | lastMember hmember => exact exists_lead_of_member hmember rest
  | nextMember hmember _ =>
      rw [List.append_assoc]
      exact exists_lead_of_member hmember _

theorem stops_blanks {blanks rest : List Char} (hblanks : Blanks blanks)
    (hrest : Stops isNumeral rest) : Stops isNumeral (blanks ++ rest) := by
  cases blanks with
  | nil => exact hrest
  | cons c others =>
      intro d hd
      cases hd
      exact isNumeral_of_isBlank (hblanks c List.mem_cons_self)

theorem stops_cons {c : Char} (hc : isNumeral c = false) (rest : List Char) :
    Stops isNumeral (c :: rest) := by
  intro d hd
  cases hd
  exact hc

/-- A value is read if it is read with one level more, whatever that number of levels. -/
theorem reads_of_value? {text : List Char} {value : Value} (hnonempty : text ≠ [])
    (hread : ∀ levels rest, Stops isNumeral rest →
      value? (levels + 1) (text ++ rest) = some (value, rest)) : Reads text (.value value) := by
  intro levels rest hlevels hrest
  have hpos := List.length_pos_iff.mpr hnonempty
  obtain ⟨levels, rfl⟩ : ∃ more, levels = more + 1 := ⟨levels - 1, by omega⟩
  exact hread levels rest hrest

theorem reads_number {text : List Char} {value : Value} (hnumber : Number text value) :
    Reads text (.value value) := by
  refine reads_of_value? ?_ fun levels rest hrest => value?_of_number hnumber hrest levels
  obtain ⟨c, others, rfl, -⟩ := exists_lead_of_number hnumber
  exact List.cons_ne_nil c others

theorem reads_string {body : List Char} {value : String} (hbody : Characters body value.toList) :
    Reads ('"' :: (body ++ ['"'])) (.value (.string value)) := by
  refine reads_of_value? (List.cons_ne_nil _ _) fun levels rest _ => ?_
  have hread : string? (body ++ ['"'] ++ rest) = some (value, rest) :=
    string?_eq_some_iff.mpr ⟨body, hbody, by simp⟩
  rw [List.cons_append, value?, hread]
  rfl

theorem reads_emptyArray {blanks : List Char} (hblanks : Blanks blanks) :
    Reads ('[' :: (blanks ++ [']'])) (.value (.list [])) := by
  refine reads_of_value? (List.cons_ne_nil _ _) fun levels rest _ => ?_
  rw [List.cons_append, List.append_assoc, value?, skip_append hblanks]
  rfl

theorem reads_emptyObject {blanks : List Char} (hblanks : Blanks blanks) :
    Reads ('\x7b' :: (blanks ++ ['\x7d'])) (.value (.object [])) := by
  refine reads_of_value? (List.cons_ne_nil _ _) fun levels rest _ => ?_
  rw [List.cons_append, List.append_assoc, value?, skip_append hblanks]
  rfl

theorem reads_array {text : List Char} {values : List Value}
    (helements : Spells text (.elements values)) (ih : Reads text (.elements values)) :
    Reads ('[' :: (text ++ [']'])) (.value (.list values)) := by
  intro levels rest hlevels _
  obtain ⟨c, others, hskip, hc⟩ := exists_lead_of_elements helements (']' :: rest)
  rw [List.length_cons, List.length_append, List.length_singleton] at hlevels
  -- One level is for the array; the brackets leave more than enough for the elements.
  obtain ⟨levels, rfl⟩ : ∃ more, levels = more + 1 := ⟨levels - 1, by omega⟩
  have hread : elements? levels (c :: others) = some (values, rest) := by
    rw [← hskip, elements?_skip]
    exact ih levels rest (by omega)
  have htext : '[' :: (text ++ [']']) ++ rest = '[' :: (text ++ ']' :: rest) := by simp
  rw [htext, value?, hskip]
  split
  · -- The array would be empty.
    rename_i heq
    cases heq
    exact absurd rfl hc
  · rw [hread]
    rfl

theorem reads_object {text : List Char} {entries : List (String × Value)}
    (hmembers : Spells text (.members entries)) (ih : Reads text (.members entries)) :
    Reads ('\x7b' :: (text ++ ['\x7d'])) (.value (.object entries)) := by
  intro levels rest hlevels _
  obtain ⟨others, hskip⟩ := exists_lead_of_members hmembers ('\x7d' :: rest)
  rw [List.length_cons, List.length_append, List.length_singleton] at hlevels
  obtain ⟨levels, rfl⟩ : ∃ more, levels = more + 1 := ⟨levels - 1, by omega⟩
  have hread : members? levels ('"' :: others) = some (entries, rest) := by
    rw [← hskip, members?_skip]
    exact ih levels rest (by omega)
  have htext : '\x7b' :: (text ++ ['\x7d']) ++ rest = '\x7b' :: (text ++ '\x7d' :: rest) := by
    simp
  rw [htext, value?, hskip]
  change (members? levels ('"' :: others)).map _ = _
  rw [hread]
  rfl

theorem reads_element {front text back : List Char} {value : Value} (hfront : Blanks front)
    (hvalue : Spells text (.value value)) (hback : Blanks back) (ih : Reads text (.value value)) :
    Reads (front ++ text ++ back) (.element value) := by
  intro levels rest hlevels hrest
  obtain ⟨c, others, hlead, hblank, -⟩ := exists_lead_of_value hvalue
  have hskip : skip (front ++ text ++ back ++ rest) = text ++ (back ++ rest) := by
    rw [List.append_assoc, List.append_assoc, skip_append hfront, hlead, List.cons_append,
      skip_cons hblank]
  rw [List.length_append, List.length_append] at hlevels
  refine ⟨back ++ rest, ?_, skip_append hback rest⟩
  rw [hskip]
  exact ih levels _ (by omega) (stops_blanks hback hrest)

theorem reads_lastElement {text : List Char} {value : Value} (ih : Reads text (.element value)) :
    Reads text (.elements [value]) := by
  intro levels rest hlevels
  obtain ⟨levels, rfl⟩ : ∃ more, levels = more + 1 := ⟨levels - 1, by omega⟩
  obtain ⟨left, hread, hleft⟩ := ih levels (']' :: rest) (by omega) (stops_cons rfl rest)
  rw [skip_cons rfl] at hleft
  simp [elements?, hread, hleft]

theorem reads_nextElement {text more : List Char} {value : Value} {values : List Value}
    (ih : Reads text (.element value)) (ihmore : Reads more (.elements values)) :
    Reads (text ++ ',' :: more) (.elements (value :: values)) := by
  intro levels rest hlevels
  rw [List.length_append, List.length_cons] at hlevels
  obtain ⟨levels, rfl⟩ : ∃ more, levels = more + 1 := ⟨levels - 1, by omega⟩
  obtain ⟨left, hread, hleft⟩ :=
    ih levels (',' :: (more ++ ']' :: rest)) (by omega) (stops_cons rfl _)
  have hnext : elements? levels (more ++ ']' :: rest) = some (values, rest) :=
    ihmore levels rest (by omega)
  rw [skip_cons rfl] at hleft
  simp [elements?, hread, hleft, hnext]

theorem reads_member {front body middle text : List Char} {key : String} {value : Value}
    (hfront : Blanks front) (hbody : Characters body key.toList) (hmiddle : Blanks middle)
    (ih : Reads text (.element value)) :
    Reads (front ++ '"' :: (body ++ '"' :: (middle ++ ':' :: text))) (.member key value) := by
  intro levels rest hlevels hrest
  have hlength : 2 * text.length ≤ levels := by
    simp only [List.length_append, List.length_cons] at hlevels
    omega
  obtain ⟨left, hread, hleft⟩ := ih levels rest hlength hrest
  exact ⟨text ++ rest, left,
    key?_eq_some_iff.mpr ⟨front, body, middle, hfront, hbody, hmiddle, by simp⟩, hread, hleft⟩

theorem reads_lastMember {text : List Char} {key : String} {value : Value}
    (ih : Reads text (.member key value)) : Reads text (.members [(key, value)]) := by
  intro levels rest hlevels
  obtain ⟨levels, rfl⟩ : ∃ more, levels = more + 1 := ⟨levels - 1, by omega⟩
  obtain ⟨behind, left, hkey, hread, hleft⟩ :=
    ih levels ('\x7d' :: rest) (by omega) (stops_cons rfl rest)
  rw [skip_cons rfl] at hleft
  simp [members?, hkey, hread, hleft]

theorem reads_nextMember {text more : List Char} {key : String} {value : Value}
    {entries : List (String × Value)} (ih : Reads text (.member key value))
    (ihmore : Reads more (.members entries)) :
    Reads (text ++ ',' :: more) (.members ((key, value) :: entries)) := by
  intro levels rest hlevels
  rw [List.length_append, List.length_cons] at hlevels
  obtain ⟨levels, rfl⟩ : ∃ more, levels = more + 1 := ⟨levels - 1, by omega⟩
  obtain ⟨behind, left, hkey, hread, hleft⟩ :=
    ih levels (',' :: (more ++ '\x7d' :: rest)) (by omega) (stops_cons rfl _)
  have hnext : members? levels (more ++ '\x7d' :: rest) = some (entries, rest) :=
    ihmore levels rest (by omega)
  rw [skip_cons rfl] at hleft
  simp [members?, hkey, hread, hleft, hnext]

theorem reads_of_spells {text : List Char} {phrase : Phrase} (hspells : Spells text phrase) :
    Reads text phrase := by
  induction hspells with
  | null | yes | no => exact reads_of_value? (by simp) fun _ _ _ => rfl
  | number hnumber => exact reads_number hnumber
  | string hbody => exact reads_string hbody
  | emptyArray hblanks => exact reads_emptyArray hblanks
  | array helements ih => exact reads_array helements ih
  | emptyObject hblanks => exact reads_emptyObject hblanks
  | object hmembers ih => exact reads_object hmembers ih
  | element hfront hvalue hback ih => exact reads_element hfront hvalue hback ih
  | lastElement _ ih => exact reads_lastElement ih
  | nextElement _ _ ih ihmore => exact reads_nextElement ih ihmore
  | member hfront hbody hmiddle _ ih => exact reads_member hfront hbody hmiddle ih
  | lastMember _ ih => exact reads_lastMember ih
  | nextMember _ _ ih ihmore => exact reads_nextMember ih ihmore

/-- What is read is what the text stands for. -/
theorem read?_eq_some_iff {text : String} {value : Value} :
    read? text = some value ↔ Denotes text value := by
  constructor
  · intro hread
    unfold read? at hread
    split at hread
    · rename_i found rest hfound
      split at hread
      · rename_i hempty
        cases hread
        obtain ⟨front, hfront, htext⟩ := (sound _).element hfound
        rw [List.isEmpty_iff.mp hempty, List.append_nil] at htext
        rw [Denotes, htext]
        exact hfront
      · cases hread
    · cases hread
  · intro hdenotes
    obtain ⟨left, hread, hleft⟩ :=
      reads_of_spells hdenotes _ [] (Nat.le_refl _) nofun
    rw [List.append_nil] at hread
    rw [read?, hread]
    change (if (skip left).isEmpty then some value else none) = _
    rw [hleft]
    rfl

/-- A text stands for one value at most. -/
theorem Denotes.unique {text : String} {value other : Value} (hvalue : Denotes text value)
    (hother : Denotes text other) : value = other :=
  Option.some.inj ((read?_eq_some_iff.mpr hvalue).symm.trans (read?_eq_some_iff.mpr hother))

end EventDispatch.Text.Json
