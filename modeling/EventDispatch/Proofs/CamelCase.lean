import EventDispatch.Proofs.Dispatch
import EventDispatch.Proofs.SnakeCase

/-!
# Camel case, back from snake case

Of a name of ASCII letters and digits the conversion to snake case can be undone.  An underscore
then stands only where a capital stood that did not open the name, and each such capital has
one of its own; so `camelChars`, which drops every underscore and raises the character
behind it, gives all of them back (`camelChars_pieces`).  What is lost is the case of the first
character, and names that agree in it and have a derived name in common are the same.

Underscores of the name itself would be dropped too, and of a run of capitals written as one
word only the first would come back.
-/

namespace EventDispatch.Name

open Text.LetterCase

/-! ## Names of letters and digits -/

/-- The name is made of ASCII letters and digits, and there is one. -/
structure IsPlain (name : String) : Prop where
  nonempty : name ≠ ""
  alphanumeric : ∀ c ∈ name.toList, c.isAlphanum = true

/-- The name starts with a capital. -/
def startsUpper (name : String) : Bool :=
  name.toList.head?.any Char.isUpper

/-- The characters of a name with the first one in lower case. -/
def decapitalize : List Char → List Char
  | [] => []
  | c :: rest => c.toLower :: rest

/-- The characters of a name without its underscores, each character behind one in upper case. -/
def camelChars (raised : Bool) : List Char → List Char
  | [] => []
  | c :: rest =>
      if c = '_' then camelChars true rest
      else (if raised then c.toUpper else c) :: camelChars false rest

/-- A name without its underscores, each character behind one in upper case. -/
def camelCase (name : String) : String :=
  String.ofList (camelChars false name.toList)

/-! ## ASCII letters and digits -/

theorem lt_of_isAlphanum {c : Char} (hplain : c.isAlphanum = true) : c.toNat < 128 := by
  delta Char.isAlphanum Char.isAlpha Char.isUpper Char.isLower Char.isDigit at hplain
  simp only [Bool.or_eq_true, Bool.and_eq_true, decide_eq_true_eq, UInt32.le_iff_toNat_le,
    ge_iff_le, Char.toNat_val] at hplain
  have hletters : 'Z'.toNat = 90 ∧ 'z'.toNat = 122 ∧ '9'.toNat = 57 := by decide
  omega

/-- The tables of capitals say of ASCII letters and digits what the ASCII functions say. -/
theorem ascii_case : ∀ point < 128, (Char.ofNat point).isAlphanum = true →
    isUppercase (Char.ofNat point) = (Char.ofNat point).isUpper ∧
      lowercase (Char.ofNat point) = [(Char.ofNat point).toLower] ∧
      (Char.ofNat point).toLower.isAlphanum = true ∧
      if (Char.ofNat point).isUpper
      then (Char.ofNat point).toLower.toUpper = Char.ofNat point
      else (Char.ofNat point).toLower = Char.ofNat point := by
  decide +kernel

section Characters

variable {c : Char} (hplain : c.isAlphanum = true)

include hplain

theorem case_of_isAlphanum : isUppercase c = c.isUpper ∧ lowercase c = [c.toLower] ∧
    c.toLower.isAlphanum = true ∧
    if c.isUpper then c.toLower.toUpper = c else c.toLower = c := by
  have hcase := ascii_case c.toNat (lt_of_isAlphanum hplain)
  rw [Char.ofNat_toNat] at hcase
  exact hcase hplain

theorem ne_of_isAlphanum {mark : Char} (hmark : mark.isAlphanum = false) : c ≠ mark := by
  rintro rfl
  rw [hplain] at hmark
  cases hmark

theorem opensWord_of_isAlphanum : opensWord (some c) = false :=
  opensWord_some_of_ne (ne_of_isAlphanum hplain (by decide))

theorem toLower_of_not_isUpper (hupper : c.isUpper = false) : c.toLower = c := by
  obtain ⟨_, _, _, hcase⟩ := case_of_isAlphanum hplain
  rwa [hupper, if_neg Bool.false_ne_true] at hcase

theorem toUpper_toLower_of_isUpper (hupper : c.isUpper = true) : c.toLower.toUpper = c := by
  obtain ⟨_, _, _, hcase⟩ := case_of_isAlphanum hplain
  rwa [hupper, if_pos rfl] at hcase

/-- A word that starts with the character starts with its lower case. -/
theorem piece_of_opensWord {before : Option Char} (hopens : opensWord before = true) :
    piece before c = [c.toLower] := by
  obtain ⟨hupper, hlower, _⟩ := case_of_isAlphanum hplain
  cases hcase : c.isUpper with
  | true => rw [piece_of_isUppercase (hupper.trans hcase), hopens, if_pos rfl, hlower]
  | false =>
      rw [piece_of_not_isUppercase (hupper.trans hcase), toLower_of_not_isUpper hplain hcase]

/-- Dropping the underscore of a piece and raising what stands behind gives the character back. -/
theorem camelChars_piece {before : Option Char} (hinside : opensWord before = false)
    (rest : List Char) : camelChars false (piece before c ++ rest) = c :: camelChars false rest := by
  obtain ⟨hupper, hlower, hsmall, _⟩ := case_of_isAlphanum hplain
  have hletter : c ≠ '_' := ne_of_isAlphanum hplain (by decide)
  have hlowered : c.toLower ≠ '_' := ne_of_isAlphanum hsmall (by decide)
  cases hcase : c.isUpper with
  | true =>
      rw [piece_of_isUppercase (hupper.trans hcase), hinside, if_neg Bool.false_ne_true, hlower]
      simp [camelChars, hlowered, toUpper_toLower_of_isUpper hplain hcase]
  | false =>
      rw [piece_of_not_isUppercase (hupper.trans hcase)]
      simp [camelChars, hletter]

end Characters

/-! ## Back to camel case -/

/-- The induction is on the name; behind its first character no word may start without an
underscore. -/
theorem camelChars_pieces {name : List Char} (hplain : ∀ c ∈ name, c.isAlphanum = true) :
    ∀ {before : Option Char}, opensWord before = false →
      camelChars false (pieces before name) = name := by
  induction name with
  | nil => intro before _; rfl
  | cons c rest ih =>
      intro before hinside
      obtain ⟨hfirst, hrest⟩ := List.forall_mem_cons.mp hplain
      rw [pieces, camelChars_piece hfirst hinside, ih hrest (opensWord_of_isAlphanum hfirst)]

theorem toList_camelCase (name : String) : (camelCase name).toList = camelChars false name.toList := by
  rw [camelCase, String.toList_ofList]

variable {name first second : String}

/-- A name of letters and digits comes back with its first character in lower case. -/
theorem toList_camelCase_snakeCase (hname : IsPlain name) :
    (camelCase (snakeCase name)).toList = decapitalize name.toList := by
  have hplain := hname.alphanumeric
  have hmark : '#' ∉ name.toList := fun hmem => absurd (hplain _ hmem) (by decide)
  rw [toList_camelCase, toList_snakeCase, unrawChars_of_notMem hmark]
  cases hchars : name.toList with
  | nil => rfl
  | cons c rest =>
      rw [hchars] at hplain
      obtain ⟨hfirst, hrest⟩ := List.forall_mem_cons.mp hplain
      obtain ⟨_, _, hsmall, _⟩ := case_of_isAlphanum hfirst
      have hlowered : c.toLower ≠ '_' := ne_of_isAlphanum hsmall (by decide)
      rw [pieces, piece_of_opensWord hfirst rfl, List.singleton_append, camelChars,
        if_neg hlowered, camelChars_pieces hrest (opensWord_of_isAlphanum hfirst)]
      rfl

theorem eq_of_toLower_eq {c d : Char} (hc : c.isAlphanum = true) (hd : d.isAlphanum = true)
    (hcase : c.isUpper = d.isUpper) (hlower : c.toLower = d.toLower) : c = d := by
  cases hupper : c.isUpper with
  | true =>
      calc c = c.toLower.toUpper := (toUpper_toLower_of_isUpper hc hupper).symm
        _ = d.toLower.toUpper := by rw [hlower]
        _ = d := toUpper_toLower_of_isUpper hd (hcase ▸ hupper)
  | false =>
      calc c = c.toLower := (toLower_of_not_isUpper hc hupper).symm
        _ = d.toLower := hlower
        _ = d := toLower_of_not_isUpper hd (hcase ▸ hupper)

/-- Names of letters and digits with the same snake case are the same, if both start with a
capital or neither does. -/
theorem eq_of_snakeCase_eq (hfirst : IsPlain first) (hsecond : IsPlain second)
    (hcase : startsUpper first = startsUpper second)
    (hsame : snakeCase first = snakeCase second) : first = second := by
  have hlists : decapitalize first.toList = decapitalize second.toList := by
    rw [← toList_camelCase_snakeCase hfirst, ← toList_camelCase_snakeCase hsecond, hsame]
  have hplain := hfirst.alphanumeric
  have hother := hsecond.alphanumeric
  rw [← String.toList_inj]
  unfold startsUpper at hcase
  cases hchars : first.toList with
  | nil => exact absurd (String.toList_eq_nil_iff.mp hchars) hfirst.nonempty
  | cons c rest =>
      cases hothers : second.toList with
      | nil => exact absurd (String.toList_eq_nil_iff.mp hothers) hsecond.nonempty
      | cons d back =>
          rw [hchars, hothers] at hlists hcase
          rw [hchars] at hplain
          rw [hothers] at hother
          obtain ⟨hlower, hrest⟩ := List.cons.inj hlists
          rw [eq_of_toLower_eq (hplain c List.mem_cons_self) (hother d List.mem_cons_self) hcase
            hlower, hrest]

/-! ## Stems of files -/

theorem splitPath_of_notMem {path : List Char} (hcolon : ':' ∉ path) : splitPath path = [path] := by
  induction path with
  | nil => rfl
  | cons c rest ih =>
      rw [List.mem_cons, not_or] at hcolon
      unfold splitPath
      split
      · rename_i heq
        cases heq
      · rename_i heq
        exact absurd (List.cons.inj heq).1.symm hcolon.1
      · rename_i heq
        obtain ⟨rfl, rfl⟩ := List.cons.inj heq
        rw [ih hcolon.2]

/-- The words that a path starts with to say where it starts. -/
def pathWords : List String := ["crate", "self"]

/-- A single name is the stem of its file, unless it is a word that stems leave out. -/
theorem qualifiedStem_of_isPlain (hname : IsPlain name) :
    qualifiedStem name = if name ∈ pathWords then "" else snakeCase name := by
  have hcolon : ':' ∉ name.toList := fun hmem => absurd (hname.alphanumeric _ hmem) (by decide)
  have hsegments : distinctiveSegments name = if name ∈ pathWords then [] else [name] := by
    simp only [distinctiveSegments, splitPath_of_notMem hcolon, List.map_cons, List.map_nil,
      String.ofList_toList]
    by_cases hword : name ∈ pathWords
    · rw [if_pos hword, List.filter_cons_of_neg, List.filter_nil]
      simp only [pathWords, List.mem_cons, List.not_mem_nil, or_false] at hword
      rcases hword with rfl | rfl <;> decide
    · rw [if_neg hword, List.filter_cons_of_pos, List.filter_nil]
      simp only [pathWords, List.mem_cons, List.not_mem_nil, or_false, not_or] at hword
      simp [hname.nonempty, hword]
  rw [qualifiedStem, hsegments]
  split
  · rfl
  · simp

theorem snakeCase_ne_empty (hname : IsPlain name) : snakeCase name ≠ "" := by
  intro hempty
  have hlist := toList_camelCase_snakeCase hname
  rw [hempty] at hlist
  cases hchars : name.toList with
  | nil => exact hname.nonempty (String.toList_eq_nil_iff.mp hchars)
  | cons c rest =>
      rw [hchars] at hlist
      cases hlist

/-- Single names with the same stem are the same, or both are words that stems leave out. -/
theorem eq_of_qualifiedStem_eq (hfirst : IsPlain first) (hsecond : IsPlain second)
    (hcase : startsUpper first = startsUpper second)
    (hsame : qualifiedStem first = qualifiedStem second) :
    first = second ∨ first ∈ pathWords ∧ second ∈ pathWords := by
  rw [qualifiedStem_of_isPlain hfirst, qualifiedStem_of_isPlain hsecond] at hsame
  by_cases hword : first ∈ pathWords
  · by_cases hother : second ∈ pathWords
    · exact .inr ⟨hword, hother⟩
    · rw [if_pos hword, if_neg hother] at hsame
      exact absurd hsame.symm (snakeCase_ne_empty hsecond)
  · by_cases hother : second ∈ pathWords
    · rw [if_neg hword, if_pos hother] at hsame
      exact absurd hsame (snakeCase_ne_empty hfirst)
    · rw [if_neg hword, if_neg hother] at hsame
      exact .inl (eq_of_snakeCase_eq hfirst hsecond hcase hsame)

theorem fileName_eq_of_artifact {set : EventSet} {settings : Settings} {artifact : Artifact}
    (hartifact : set.artifact settings = .ok artifact) :
    artifact.fileName = snakeCase set.name ++ ".rs" := by
  obtain ⟨dispatch, _, hresult⟩ := bind_eq_ok_iff.mp hartifact
  cases hresult
  rfl

/-! ## Main result -/

/-- Of a name of ASCII letters and digits the conversion can be undone but for the case of the
first character.  So two of them of which both start with a capital or neither does are the same
if they have the event name, the key or the stem in common, where stems leave out `crate` and
`self`.  The events of a declaration that are called by such names with a capital in front are
recorded under different names, and sets that are called so are generated into files of
different names. -/
theorem camelCase_snakeCase :
    (∀ name, IsPlain name → (camelCase (snakeCase name)).toList = decapitalize name.toList) ∧
    (∀ first second, IsPlain first → IsPlain second → startsUpper first = startsUpper second →
      (eventName first = eventName second → first = second) ∧
      (paramKey first = paramKey second → first = second) ∧
      (qualifiedStem first = qualifiedStem second →
        first = second ∨ first ∈ pathWords ∧ second ∈ pathWords)) ∧
    (∀ (declaration : Declaration) (set : EventSet), declaration.eventSet? = some set →
      ∀ variant ∈ set.variants, ∀ other ∈ set.variants,
        IsPlain variant.name → startsUpper variant.name = true →
        IsPlain other.name → startsUpper other.name = true →
        variant.eventName = other.eventName → variant.name = other.name) ∧
    ∀ (settings : Settings) (set other : EventSet) (artifact further : Artifact),
      set.artifact settings = .ok artifact → other.artifact settings = .ok further →
      IsPlain set.name → IsPlain other.name → startsUpper set.name = startsUpper other.name →
      artifact.fileName = further.fileName → set.name = other.name := by
  refine ⟨fun name hname => toList_camelCase_snakeCase hname,
    fun first second hfirst hsecond hcase => ?_, ?_, ?_⟩
  · exact ⟨eq_of_snakeCase_eq hfirst hsecond hcase, eq_of_snakeCase_eq hfirst hsecond hcase,
      eq_of_qualifiedStem_eq hfirst hsecond hcase⟩
  · intro declaration set hset variant hvariant other hother hplain hupper hplain' hupper' hsame
    obtain ⟨_, rfl⟩ := Declaration.eventSet?_eq_some_iff.mp hset
    obtain ⟨member, _, _, rfl⟩ := Declaration.exists_member_of_mem_variants hvariant
    obtain ⟨member', _, _, rfl⟩ := Declaration.exists_member_of_mem_variants hother
    exact eq_of_snakeCase_eq hplain hplain' (hupper.trans hupper'.symm) hsame
  · intro settings set other artifact further hartifact hfurther hplain hplain' hcase hsame
    rw [fileName_eq_of_artifact hartifact, fileName_eq_of_artifact hfurther] at hsame
    exact eq_of_snakeCase_eq hplain hplain' hcase ((String.append_left_inj _).mp hsame)

/-- A run of capitals with a digit behind it comes back, and is told apart from the same letters
written as one word.  The events of the gestures are told apart too, and so are the files of
two sets called by the acronym and by the word. -/
theorem camelCase_snakeCase_acronym :
    IsPlain "HTTP2Error" ∧ IsPlain "Http2Error" ∧ snakeCase "HTTP2Error" = "h_t_t_p2_error" ∧
      (camelCase "h_t_t_p2_error").toList = "hTTP2Error".toList ∧
      eventName "HTTP2Error" ≠ eventName "Http2Error" ∧
      ∃ set, gestures.eventSet? = some set ∧
        (∃ variant ∈ set.variants, ∃ other ∈ set.variants, variant.name = "DoubleTap" ∧
          other.name = "Swipe" ∧ variant.eventName ≠ other.eventName) ∧
        ∃ artifact further, { set with name := "HTTP2Error" }.artifact .standard = .ok artifact ∧
          { set with name := "Http2Error" }.artifact .standard = .ok further ∧
          artifact.fileName ≠ further.fileName := by
  have hacronym : IsPlain "HTTP2Error" := ⟨by decide, List.all_eq_true.mp (by decide)⟩
  have hword : IsPlain "Http2Error" := ⟨by decide, List.all_eq_true.mp (by decide)⟩
  have hsnake : snakeCase "HTTP2Error" = "h_t_t_p2_error" := by decide +kernel
  obtain ⟨hback, hapart, hevents, hfiles⟩ := camelCase_snakeCase
  obtain ⟨set, hset⟩ : ∃ set, gestures.eventSet? = some set :=
    Option.isSome_iff_exists.mp (by decide +kernel)
  obtain ⟨_, hvalue⟩ := Declaration.eventSet?_eq_some_iff.mp hset
  refine ⟨hacronym, hword, hsnake, ?_, fun hsame => ?_, set, hset, ?_, ?_⟩
  · rw [← hsnake, hback _ hacronym]
    decide
  · exact absurd ((hapart _ _ hacronym hword (by decide)).1 hsame) (by decide)
  · have hvariants : set.variants = [
        { name := "DoubleTap", eventName := "double_tap", fields := [] },
        { name := "Swipe", eventName := "swipe"
          fields := [⟨"r#type", "type"⟩, ⟨"screenName", "screen_name"⟩] }] := by
      rw [hvalue]
      decide +kernel
    have hfirst := hvariants ▸ List.mem_cons_self
    have hsecond := hvariants ▸ List.mem_cons_of_mem _ List.mem_cons_self
    refine ⟨_, hfirst, _, hsecond, rfl, rfl, fun hsame => ?_⟩
    have htap : IsPlain "DoubleTap" := ⟨by decide, List.all_eq_true.mp (by decide)⟩
    have hswipe : IsPlain "Swipe" := ⟨by decide, List.all_eq_true.mp (by decide)⟩
    have heq := hevents gestures set hset _ hfirst _ hsecond htap (by decide) hswipe (by decide)
      hsame
    exact absurd heq (by decide)
  · obtain ⟨artifact, hartifact⟩ :
        ∃ artifact, { set with name := "HTTP2Error" }.artifact .standard = .ok artifact :=
      exists_artifact plainArgument (by rw [hvalue]; decide +kernel)
    obtain ⟨further, hfurther⟩ :
        ∃ further, { set with name := "Http2Error" }.artifact .standard = .ok further :=
      exists_artifact plainArgument (by rw [hvalue]; decide +kernel)
    refine ⟨artifact, further, hartifact, hfurther, fun hsame => ?_⟩
    have hcase : startsUpper "HTTP2Error" = startsUpper "Http2Error" := by decide
    have hne : "HTTP2Error" ≠ "Http2Error" := by decide
    exact hne (hfiles .standard _ _ artifact further hartifact hfurther hacronym hword hcase hsame)

end EventDispatch.Name
