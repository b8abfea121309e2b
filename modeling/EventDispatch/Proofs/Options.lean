import EventDispatch.CommandLine.Run
import EventDispatch.Proofs.Result

/-!
# One more option on a command line

The reading of a command line passes on the options found so far, and looks at them only
to refuse one that is taken twice.  So a part of a command line adds the same options
whatever stands in front of it, as long as what stands in front has none of them
(`Frames`).

`ofWords_insert` uses this for an option that stands nowhere yet: it may be put wherever
the words in front of it can stand alone (`ReadsAlone`), and nothing else is read in
another way.
-/

namespace EventDispatch.CommandLine

/-! ## What was found so far -/

@[simp]
theorem isGiven_append (front back : List Occurrence) (long : String) :
    isGiven (front ++ back) long = (isGiven front long || isGiven back long) :=
  List.any_append

@[simp]
theorem isGiven_cons (occurrence : Occurrence) (rest : List Occurrence) (long : String) :
    isGiven (occurrence :: rest) long = (occurrence.long == long || isGiven rest long) :=
  List.any_cons

/-- As for some options, the two lists do not differ. -/
def Agree (added other found : List Occurrence) : Prop :=
  ∀ occurrence ∈ added, isGiven other occurrence.long = isGiven found occurrence.long

/-- A part of the reading that succeeds adds some options at the end, and adds the same
ones to other lists that agree on them. -/
def Frames {α : Type} (step : List Occurrence → Except Stop (List Occurrence × α)) : Prop :=
  ∀ found later value, step found = .ok (later, value) → ∃ added, later = found ++ added ∧
    ∀ other, Agree added other found → step other = .ok (other ++ added, value)

theorem frames_ok {α : Type} (value : α) : Frames fun found => .ok (found, value) := by
  intro found later value hstep
  cases hstep
  exact ⟨[], by simp, fun other _ => by simp⟩

theorem frames_error {α : Type} (stop : Stop) :
    Frames (α := α) fun _ => .error stop := by
  intro found later value hstep
  cases hstep

/-- What the second part adds comes behind what the first one adds. -/
theorem Frames.bind {α β : Type} {step : List Occurrence → Except Stop (List Occurrence × α)}
    {next : α → List Occurrence → Except Stop (List Occurrence × β)} (hstep : Frames step)
    (hnext : ∀ value, Frames (next value)) :
    Frames fun found => step found >>= fun result => next result.2 result.1 := by
  intro found later value hrun
  obtain ⟨⟨middle, first⟩, hfirst, hrun⟩ := bind_eq_ok_iff.mp hrun
  obtain ⟨added, rfl, hsame⟩ := hstep _ _ _ hfirst
  obtain ⟨further, rfl, hagain⟩ := hnext first _ _ _ hrun
  refine ⟨added ++ further, List.append_assoc .., fun other hagree => ?_⟩
  have hadded : Agree added other found := fun occurrence hmem =>
    hagree occurrence (List.mem_append_left _ hmem)
  have hfurther : Agree further (other ++ added) (found ++ added) := fun occurrence hmem => by
    simp [hagree occurrence (List.mem_append_right _ hmem)]
  refine bind_eq_ok_iff.mpr ⟨(other ++ added, first), hsame other hadded, ?_⟩
  rw [hagain _ hfurther, List.append_assoc]

/-- What does not look at the options found so far may come first. -/
theorem Frames.behind {α β : Type} {step : α → List Occurrence → Except Stop (List Occurrence × β)}
    (hstep : ∀ value, Frames (step value)) (looked : Except Stop α) :
    Frames fun found => looked >>= fun value => step value found := by
  cases looked with
  | error stop => exact frames_error stop
  | ok value => exact hstep value

/-! ## Reading -/

/-- The option may stand with the value, or without one. -/
def OptionRule.Takes (rule : OptionRule) (value : Option String) : Prop :=
  match rule.kind, value with
  | .flag, none => True
  | .value accepts, some value => accepts value = true
  | _, _ => False

theorem ite_refused_eq_ok {α : Type} {refused : Bool} {value result : α} :
    (if refused then .error .refused else .ok value : Except Stop α) = .ok result ↔
      refused = false ∧ result = value := by
  cases refused <;> simp [eq_comm]

/-- An option that is taken stands behind those found so far.  They are asked only whether
it is there already. -/
theorem note_eq_ok_iff {rule : OptionRule} {value : Option String}
    {found later : List Occurrence} :
    note rule value found = .ok later ↔
      rule.Takes value ∧ (!rule.repeats && isGiven found rule.long) = false ∧
        later = found ++ [{ long := rule.long, value }] := by
  unfold note OptionRule.Takes
  cases rule.kind with
  | flag =>
      cases value with
      | none => simpa only [isGiven, true_and] using ite_refused_eq_ok
      | some value => simp
  | value accepts =>
      cases value with
      | none => simp
      | some value =>
          cases haccepts : accepts value with
          | false => simp [haccepts]
          | true => simpa only [isGiven, haccepts, if_true, true_and] using ite_refused_eq_ok
  | stop reason => cases value <;> simp

theorem frames_note (rule : OptionRule) (value : Option String) :
    Frames fun found => (note rule value found).map fun later => (later, ()) := by
  intro found later result hnote
  obtain ⟨noted, htaken, hlater⟩ := map_eq_ok_iff.mp hnote
  cases hlater
  obtain ⟨htakes, hfree, rfl⟩ := note_eq_ok_iff.mp htaken
  refine ⟨_, rfl, fun other hagree => ?_⟩
  rw [← hagree _ (List.mem_singleton_self _)] at hfree
  exact map_eq_ok_iff.mpr ⟨_, note_eq_ok_iff.mpr ⟨htakes, hfree, rfl⟩, rfl⟩

theorem Frames.note {α : Type} {next : List Occurrence → Except Stop (List Occurrence × α)}
    (hnext : Frames next) (rule : OptionRule) (value : Option String) :
    Frames fun found => CommandLine.note rule value found >>= next := by
  have hbind := (frames_note rule value).bind fun _ => hnext
  convert hbind using 2 with found
  cases CommandLine.note rule value found <;> rfl

theorem frames_readLetters (rules : List OptionRule) (letters : List Char) :
    Frames (readLetters rules letters) := by
  induction letters with
  | nil => exact frames_ok none
  | cons letter rest ih =>
      refine Frames.behind (fun rule => ?_) _
      cases rule.takesValue with
      | false => exact ih.note rule none
      | true =>
          -- The value is in the next word, behind an equals sign, or all that is left.
          simp only [if_true]
          split
          · exact frames_ok (some rule)
          · exact (frames_ok none).note rule _
          · exact (frames_ok none).note rule _

theorem frames_readLong (rules : List OptionRule) (name : String) (value : Option String) :
    Frames (readLong rules name value) := by
  refine Frames.behind (fun rule => ?_) _
  cases rule.takesValue && value.isNone with
  | true => exact frames_ok (some rule)
  | false => exact (frames_ok none).note rule value

theorem frames_readOptions (rules : List OptionRule) (words : List String)
    (open? : Option OptionRule) : Frames (readOptions rules words open?) := by
  induction words generalizing open? with
  | nil =>
      cases open? with
      | none => exact frames_ok []
      | some rule => exact frames_error .refused
  | cons word words ih =>
      cases open? with
      | some rule =>
          simp only [readOptions]
          cases Word.ofText word with
          | plain text => exact (ih none).note rule (some text)
          | separator => exact frames_error .refused
          | long name value => exact frames_error .refused
          | short letters => exact frames_error .refused
      | none =>
          simp only [readOptions]
          cases Word.ofText word with
          | plain text => exact frames_ok (word :: words)
          | separator =>
              cases words.isEmpty with
              | true => exact frames_ok []
              | false => exact frames_error .refused
          | long name value => exact (frames_readLong rules name value).bind ih
          | short letters => exact (frames_readLetters rules letters).bind ih

/-! ## Words in front -/

/-- The words can be read to their end, and leave the reading where it goes on with more
words: no value is missing, and no separator ends the options. -/
def ReadsAlone (front : List String) : Prop :=
  "--" ∉ front ∧ ∃ found, readOptions runRules front none [] = .ok (found, [])

theorem eq_separator {word : String} (hword : Word.ofText word = .separator) : word = "--" := by
  simp only [Word.ofText] at hword
  split at hword
  · rename_i htext
    exact String.toList_inj.mp htext
  · split at hword <;> cases hword
  · cases hword
  · cases hword

/-- Words that are read to their end are read before those behind them. -/
theorem readOptions_append {rules : List OptionRule} {front back : List String}
    {open? : Option OptionRule} {found later : List Occurrence} (hfront : "--" ∉ front)
    (hread : readOptions rules front open? found = .ok (later, [])) :
    readOptions rules (front ++ back) open? found = readOptions rules back none later := by
  induction front generalizing open? found with
  | nil =>
      cases open? with
      | none =>
          cases hread
          rfl
      | some rule => cases hread
  | cons word front ih =>
      obtain ⟨hword, hrest⟩ := List.ne_and_not_mem_of_not_mem_cons hfront
      cases open? with
      | some rule =>
          simp only [List.cons_append, readOptions] at hread ⊢
          cases hform : Word.ofText word with
          | plain text =>
              simp only [hform] at hread ⊢
              obtain ⟨noted, hnote, hread⟩ := bind_eq_ok_iff.mp hread
              rw [hnote]
              exact ih hrest hread
          | separator => simp [hform] at hread
          | long name value => simp [hform] at hread
          | short letters => simp [hform] at hread
      | none =>
          simp only [List.cons_append, readOptions] at hread ⊢
          cases hform : Word.ofText word with
          | plain text => simp [hform] at hread
          | separator => exact absurd (eq_separator hform).symm hword
          | long name value =>
              simp only [hform] at hread ⊢
              obtain ⟨⟨noted, next?⟩, hlong, hread⟩ := bind_eq_ok_iff.mp hread
              rw [hlong]
              exact ih hrest hread
          | short letters =>
              simp only [hform] at hread ⊢
              obtain ⟨⟨noted, next?⟩, hletters, hread⟩ := bind_eq_ok_iff.mp hread
              rw [hletters]
              exact ih hrest hread

/-! ## A dry run -/

/-- The option that asks for a dry run, as it is found. -/
def dryRunOption : Occurrence := { long := "dry-run", value := none }

/-- It may stand wherever options may, if it does not stand on the command line yet. -/
theorem readOptions_dryRun {words : List String} {found : List Occurrence}
    (hfound : isGiven found "dry-run" = false) :
    readOptions runRules ("--dry-run" :: words) none found =
      readOptions runRules words none (found ++ [dryRunOption]) := by
  have hform : Word.ofText "--dry-run" = .long "dry-run" none := by decide
  have hnote : note { long := "dry-run" } none found = .ok (found ++ [dryRunOption]) :=
    note_eq_ok_iff.mpr ⟨trivial, by simp [hfound], rfl⟩
  have hlong : readLong runRules "dry-run" none found = .ok (found ++ [dryRunOption], none) := by
    have hrule : findRule runRules (·.long == "dry-run") = .ok { long := "dry-run" } := by
      simp [findRule, runRules]
    unfold readLong
    rw [hrule]
    change (note { long := "dry-run" } none found >>= fun found => .ok (found, none)) = _
    rw [hnote]
    rfl
  simp only [readOptions, hform]
  rw [hlong]
  rfl

theorem readOnlyOptions_eq_ok_iff {rules : List OptionRule} {words : List String}
    {found : List Occurrence} :
    readOnlyOptions rules words = .ok found ↔ readOptions rules words none [] = .ok (found, []) := by
  constructor
  · intro honly
    obtain ⟨⟨later, rest⟩, hread, hrest⟩ := bind_eq_ok_iff.mp honly
    cases rest with
    | nil =>
        cases hrest
        exact hread
    | cons word rest => cases hrest
  · intro hread
    exact bind_eq_ok_iff.mpr ⟨_, hread, rfl⟩

/-- The option that asks for a dry run is read wherever it stands, and changes nothing in
how the words around it are read. -/
theorem ofWords_insert {front back : List String} {options : RunOptions}
    (hfront : ReadsAlone front) (hoptions : RunOptions.ofWords (front ++ back) = .ok options)
    (hdryRun : options.dryRun = false) :
    RunOptions.ofWords (front ++ "--dry-run" :: back) = .ok { options with dryRun := true } := by
  obtain ⟨hseparator, first, hfirst⟩ := hfront
  obtain ⟨found, honly, hoptions⟩ := bind_eq_ok_iff.mp hoptions
  have hback := readOnlyOptions_eq_ok_iff.mp honly
  rw [readOptions_append hseparator hfirst] at hback
  obtain ⟨added, rfl, hsame⟩ := frames_readOptions runRules back none _ _ _ hback
  cases hoptions
  have hnone : isGiven first "dry-run" = false ∧ isGiven added "dry-run" = false := by
    simpa using hdryRun
  -- What the words behind add is not the new option, so they do not notice it.
  have hagree : Agree added (first ++ [dryRunOption]) first := by
    intro occurrence hmem
    have hlong : occurrence.long ≠ "dry-run" := by
      intro hlong
      have hgiven : isGiven added "dry-run" = true :=
        List.any_eq_true.mpr ⟨occurrence, hmem, by simp [hlong]⟩
      rw [hnone.2] at hgiven
      cases hgiven
    simp [isGiven, dryRunOption, Ne.symm hlong]
  have hread : readOptions runRules (front ++ "--dry-run" :: back) none [] =
      .ok (first ++ [dryRunOption] ++ added, []) := by
    rw [readOptions_append hseparator hfirst, readOptions_dryRun hnone.1, hsame _ hagree]
  refine bind_eq_ok_iff.mpr ⟨_, readOnlyOptions_eq_ok_iff.mpr hread, ?_⟩
  simp [pure, Except.pure, valuesOf, countOf, dryRunOption]

end EventDispatch.CommandLine
