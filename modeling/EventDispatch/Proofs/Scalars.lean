import EventDispatch.Text.Json.Reader
import Mathlib.Data.List.Basic
import Mathlib.Data.List.TakeWhile

/-!
# Reading the strings and the numbers of JSON

The parts of a text that have no values within them are read as the grammar has them, and both
directions are shown at once, part by part: `character?` reads what `Written` allows, `number?`
what `Number` allows, and so on.

A string goes as far as its first quote that is not escaped.  A number has no end of its own,
and it goes as far as the characters do that numbers are made of; this is the reason for the
condition `Stops` on what stands behind it.
-/

namespace EventDispatch.Text.Json

/-! ## Characters of one kind -/

/-- The first character of the text, if there is one, is not of the kind. -/
def Stops (kind : Char → Bool) (text : List Char) : Prop :=
  ∀ c, text.head? = some c → kind c = false

theorem Stops.takeWhile_eq_nil {kind : Char → Bool} {text : List Char} (hstops : Stops kind text) :
    text.takeWhile kind = [] := by
  cases text with
  | nil => rfl
  | cons c rest => exact List.takeWhile_cons_of_neg (by simp [hstops c rfl])

theorem Stops.dropWhile_eq_self {kind : Char → Bool} {text : List Char} (hstops : Stops kind text) :
    text.dropWhile kind = text := by
  cases text with
  | nil => rfl
  | cons c rest => exact List.dropWhile_cons_of_neg (by simp [hstops c rfl])

theorem stops_dropWhile (kind : Char → Bool) (text : List Char) :
    Stops kind (text.dropWhile kind) := by
  intro c hc
  have hnot := List.head?_dropWhile_not kind text
  rw [hc] at hnot
  simpa using hnot

theorem takeWhile_front {kind : Char → Bool} {front rest : List Char}
    (hfront : ∀ c ∈ front, kind c = true) (hrest : Stops kind rest) :
    (front ++ rest).takeWhile kind = front := by
  rw [List.takeWhile_append_of_pos hfront, hrest.takeWhile_eq_nil, List.append_nil]

theorem dropWhile_front {kind : Char → Bool} {front rest : List Char}
    (hfront : ∀ c ∈ front, kind c = true) (hrest : Stops kind rest) :
    (front ++ rest).dropWhile kind = rest := by
  rw [List.dropWhile_append_of_pos hfront, hrest.dropWhile_eq_self]

/-! ## Blanks -/

theorem skip_append {blanks : List Char} (hblanks : Blanks blanks) (text : List Char) :
    skip (blanks ++ text) = skip text := by
  unfold skip
  exact List.dropWhile_append_of_pos hblanks

theorem skip_cons {c : Char} (hc : isBlank c = false) (rest : List Char) :
    skip (c :: rest) = c :: rest := by
  unfold skip
  exact List.dropWhile_cons_of_neg (by simp [hc])

theorem skip_skip (text : List Char) : skip (skip text) = skip text :=
  (stops_dropWhile isBlank text).dropWhile_eq_self

theorem exists_blanks (text : List Char) : ∃ blanks, Blanks blanks ∧ text = blanks ++ skip text :=
  ⟨text.takeWhile isBlank, fun _ hmem => List.mem_takeWhile_imp hmem,
    List.takeWhile_append_dropWhile.symm⟩

/-! ## Strings -/

theorem codeUnit?_eq_some_iff {text rest : List Char} {point : Nat} :
    codeUnit? text = some (point, rest) ↔
      ∃ digits, CodeUnit digits point ∧ text = digits ++ rest := by
  constructor
  · intro hread
    unfold codeUnit? at hread
    split at hread
    · rename_i a b c d rest
      simp only [Option.bind_eq_bind, Option.bind_eq_some_iff, Option.pure_def, Option.some.injEq,
        Prod.mk.injEq] at hread
      obtain ⟨i, hi, j, hj, k, hk, l, hl, rfl, rfl⟩ := hread
      exact ⟨[a, b, c, d], .digits hi hj hk hl, rfl⟩
    · cases hread
  · rintro ⟨digits, hdigits, rfl⟩
    cases hdigits with
    | digits ha hb hc hd => simp [codeUnit?, ha, hb, hc, hd]

theorem lowSurrogate?_eq_some_iff {text rest : List Char} {low : Nat} :
    lowSurrogate? text = some (low, rest) ↔
      ∃ digits, CodeUnit digits low ∧ isLowSurrogate low = true ∧
        text = '\\' :: 'u' :: (digits ++ rest) := by
  constructor
  · intro hread
    unfold lowSurrogate? at hread
    split at hread
    · rw [Option.filter_eq_some_iff, codeUnit?_eq_some_iff] at hread
      obtain ⟨⟨digits, hdigits, rfl⟩, hlow⟩ := hread
      exact ⟨digits, hdigits, hlow, rfl⟩
    · cases hread
  · rintro ⟨digits, hdigits, hlow, rfl⟩
    rw [lowSurrogate?, Option.filter_eq_some_iff, codeUnit?_eq_some_iff]
    exact ⟨⟨digits, hdigits, rfl⟩, hlow⟩

theorem point?_eq_some_iff {text rest : List Char} {c : Char} :
    point? text = some (c, rest) ↔
      ∃ piece, Written ('\\' :: 'u' :: piece) c ∧ text = piece ++ rest := by
  constructor
  · intro hread
    obtain ⟨⟨point, behind⟩, hpoint, hnext⟩ := Option.bind_eq_some_iff.mp hread
    obtain ⟨digits, hdigits, rfl⟩ := codeUnit?_eq_some_iff.mp hpoint
    change (if isHighSurrogate point then _ else _) = _ at hnext
    -- A high surrogate needs a low one behind it; a low one cannot come first.
    cases hhigh : isHighSurrogate point with
    | true =>
        rw [if_pos hhigh] at hnext
        obtain ⟨⟨low, last⟩, hlow, hpair⟩ := Option.bind_eq_some_iff.mp hnext
        obtain ⟨rfl, rfl⟩ := Prod.mk.inj (Option.some.inj hpair)
        obtain ⟨second, hsecond, hsurrogate, rfl⟩ := lowSurrogate?_eq_some_iff.mp hlow
        exact ⟨digits ++ '\\' :: 'u' :: second, .pair hdigits hhigh hsecond hsurrogate, by simp⟩
    | false =>
        rw [hhigh, if_neg Bool.false_ne_true] at hnext
        cases hlow : isLowSurrogate point with
        | true =>
            rw [if_pos hlow] at hnext
            cases hnext
        | false =>
            rw [hlow, if_neg Bool.false_ne_true] at hnext
            cases hnext
            exact ⟨digits, .point hdigits hhigh hlow, rfl⟩
  · rintro ⟨piece, hwritten, rfl⟩
    cases hwritten with
    | short hletter => cases hletter
    | @point _ point hdigits hhigh hlow =>
        have hpoint : codeUnit? (piece ++ rest) = some (point, rest) :=
          codeUnit?_eq_some_iff.mpr ⟨piece, hdigits, rfl⟩
        simp [point?, hpoint, hhigh, hlow]
    | @pair first second high low hfirst hhigh hsecond hlow =>
        have hpair : lowSurrogate? ('\\' :: 'u' :: (second ++ rest)) = some (low, rest) :=
          lowSurrogate?_eq_some_iff.mpr ⟨second, hsecond, hlow, rfl⟩
        have hpoint : codeUnit? (first ++ '\\' :: 'u' :: (second ++ rest)) =
            some (high, '\\' :: 'u' :: (second ++ rest)) :=
          codeUnit?_eq_some_iff.mpr ⟨first, hfirst, rfl⟩
        simp [point?, List.append_assoc, hpoint, hhigh, hpair]

theorem character?_eq_some_iff {text rest : List Char} {c : Char} :
    character? text = some (c, rest) ↔ ∃ piece, Written piece c ∧ text = piece ++ rest := by
  constructor
  · intro hread
    unfold character? at hread
    split at hread
    · cases hread
    · split at hread
      · cases hread
      · obtain ⟨piece, hwritten, rfl⟩ := point?_eq_some_iff.mp hread
        exact ⟨_, hwritten, rfl⟩
      · obtain ⟨letter, hletter, hpair⟩ := Option.map_eq_some_iff.mp hread
        cases hpair
        exact ⟨_, .short hletter, rfl⟩
    · split at hread
      · cases hread
      · rename_i first others hescape hplain
        rw [not_or, Nat.not_lt] at hplain
        cases hread
        exact ⟨[c], .plain hplain.1 (fun heq => hescape heq) hplain.2, rfl⟩
  · rintro ⟨piece, hwritten, rfl⟩
    cases hwritten with
    | plain hquote hescape hcontrol =>
        have hplain : ¬ (c = '"' ∨ c.toNat < 32) := not_or.mpr ⟨hquote, Nat.not_lt.mpr hcontrol⟩
        simp [character?, hplain]
    | @short letter _ hletter =>
        have hne : letter ≠ 'u' := by
          rintro rfl
          cases hletter
        simp [character?, hletter]
    | point hdigits hhigh hlow =>
        exact point?_eq_some_iff.mpr ⟨_, .point hdigits hhigh hlow, rfl⟩
    | pair hfirst hhigh hsecond hlow =>
        exact point?_eq_some_iff.mpr ⟨_, .pair hfirst hhigh hsecond hlow, rfl⟩

theorem character?_quote (rest : List Char) : character? ('"' :: rest) = none := by
  simp [character?]

/-- A string ends at the first quote that is not escaped. -/
theorem charactersAtMost?_eq_some_iff {text value rest : List Char} {bound : Nat} :
    charactersAtMost? bound text = some (value, rest) ↔
      ∃ body, Characters body value ∧ text = body ++ '"' :: rest ∧ value.length < bound := by
  induction bound generalizing text value with
  | zero => simp [charactersAtMost?]
  | succ bound ih =>
      constructor
      · intro hread
        unfold charactersAtMost? at hread
        split at hread
        · cases hread
          exact ⟨[], .nil, rfl, Nat.zero_lt_succ _⟩
        · obtain ⟨⟨c, behind⟩, hfirst, hnext⟩ := Option.bind_eq_some_iff.mp hread
          obtain ⟨⟨others, last⟩, hothers, hpair⟩ := Option.bind_eq_some_iff.mp hnext
          obtain ⟨rfl, rfl⟩ := Prod.mk.inj (Option.some.inj hpair)
          obtain ⟨piece, hpiece, rfl⟩ := character?_eq_some_iff.mp hfirst
          obtain ⟨body, hbody, rfl, hlt⟩ := ih.mp hothers
          exact ⟨piece ++ body, .cons hpiece hbody, (List.append_assoc ..).symm,
            Nat.succ_lt_succ hlt⟩
      · rintro ⟨body, hbody, rfl, hlt⟩
        cases hbody with
        | nil => rfl
        | @cons piece body c others hpiece hrest =>
            -- What is written for a character is not the quote at the end of the string.
            have hfirst := character?_eq_some_iff.mpr
              ⟨piece, hpiece, (List.append_assoc piece body ('"' :: rest))⟩
            have hothers := ih.mpr ⟨body, hrest, rfl, Nat.lt_of_succ_lt_succ hlt⟩
            unfold charactersAtMost?
            split
            · rename_i quoted heq
              rw [heq, character?_quote] at hfirst
              cases hfirst
            · rw [hfirst]
              change (charactersAtMost? bound _).bind _ = _
              rw [hothers]
              rfl

theorem length_le_of_characters {body value : List Char} (hbody : Characters body value) :
    value.length ≤ body.length := by
  induction hbody with
  | nil => exact Nat.le_refl _
  | @cons piece _ _ _ hpiece _ ih =>
      have hpos : 0 < piece.length := by
        cases hpiece <;> exact Nat.zero_lt_succ _
      rw [List.length_append, List.length_cons]
      omega

theorem string?_eq_some_iff {text rest : List Char} {value : String} :
    string? text = some (value, rest) ↔
      ∃ body, Characters body value.toList ∧ text = body ++ '"' :: rest := by
  unfold string?
  constructor
  · intro hread
    obtain ⟨⟨found, behind⟩, hfound, hpair⟩ := Option.map_eq_some_iff.mp hread
    obtain ⟨rfl, rfl⟩ := Prod.mk.inj hpair
    obtain ⟨body, hbody, htext, -⟩ := charactersAtMost?_eq_some_iff.mp hfound
    exact ⟨body, by rwa [String.toList_ofList], htext⟩
  · rintro ⟨body, hbody, rfl⟩
    have hlt : value.toList.length < (body ++ '"' :: rest).length := by
      have hle := length_le_of_characters hbody
      rw [List.length_append, List.length_cons]
      omega
    rw [charactersAtMost?_eq_some_iff.mpr ⟨body, hbody, rfl, hlt⟩]
    change some (String.ofList value.toList, rest) = _
    rw [String.ofList_toList]

theorem key?_eq_some_iff {text rest : List Char} {key : String} :
    key? text = some (key, rest) ↔ ∃ front body middle, Blanks front ∧ Characters body key.toList ∧
      Blanks middle ∧ text = front ++ '"' :: (body ++ '"' :: (middle ++ ':' :: rest)) := by
  constructor
  · intro hread
    obtain ⟨front, hfront, htext⟩ := exists_blanks text
    unfold key? at hread
    split at hread
    · rename_i behind hskip
      obtain ⟨⟨found, after⟩, hfound, hnext⟩ := Option.bind_eq_some_iff.mp hread
      obtain ⟨middle, hmiddle, hafter⟩ := exists_blanks after
      simp only at hnext
      split at hnext
      · rename_i last hcolon
        obtain ⟨rfl, rfl⟩ := Prod.mk.inj (Option.some.inj hnext)
        obtain ⟨body, hbody, hbehind⟩ := string?_eq_some_iff.mp hfound
        refine ⟨front, body, middle, hfront, hbody, hmiddle, ?_⟩
        rw [htext, hskip, hbehind, hafter, hcolon]
      · cases hnext
    · cases hread
  · rintro ⟨front, body, middle, hfront, hbody, hmiddle, rfl⟩
    have hstring : string? (body ++ '"' :: (middle ++ ':' :: rest)) =
        some (key, middle ++ ':' :: rest) := string?_eq_some_iff.mpr ⟨body, hbody, rfl⟩
    have hquote : skip (front ++ '"' :: (body ++ '"' :: (middle ++ ':' :: rest))) =
        '"' :: (body ++ '"' :: (middle ++ ':' :: rest)) := by
      rw [skip_append hfront, skip_cons rfl]
    have hcolon : skip (middle ++ ':' :: rest) = ':' :: rest := by
      rw [skip_append hmiddle, skip_cons rfl]
    simp [key?, hquote, hstring, hcolon]

/-! ## Numbers -/

theorem isDigits_eq_true_iff {text : List Char} : isDigits text = true ↔ Digits text := by
  rw [isDigits, Digits, Bool.and_eq_true, Bool.not_eq_true', List.isEmpty_eq_false_iff,
    List.all_eq_true]

theorem isWhole_eq_true_iff {text : List Char} : isWhole text = true ↔ Whole text := by
  rw [isWhole, Whole, Bool.and_eq_true, isDigits_eq_true_iff, Bool.or_eq_true, bne_iff_ne,
    beq_iff_eq]
  refine and_congr_right fun _ => ?_
  tauto

theorem Digits.exists_cons {text : List Char} (hdigits : Digits text) :
    ∃ c others, text = c :: others ∧ c.isDigit = true := by
  obtain ⟨hne, hall⟩ := hdigits
  obtain ⟨c, others, rfl⟩ := List.exists_cons_of_ne_nil hne
  exact ⟨c, others, rfl, hall c List.mem_cons_self⟩

theorem dropSign_digits {text : List Char} (hdigits : Digits text) : dropSign text = text := by
  obtain ⟨c, others, rfl, hc⟩ := hdigits.exists_cons
  unfold dropSign
  split
  · rename_i heq
    cases heq
    cases hc
  · rename_i heq
    cases heq
    cases hc
  · rfl

theorem exists_dropSign (text : List Char) :
    ∃ sign, (sign = [] ∨ sign = ['+'] ∨ sign = ['-']) ∧ text = sign ++ dropSign text := by
  unfold dropSign
  split
  · exact ⟨['+'], .inr (.inl rfl), rfl⟩
  · exact ⟨['-'], .inr (.inr rfl), rfl⟩
  · exact ⟨[], .inl rfl, rfl⟩

theorem isExponent_eq_true_iff {text : List Char} : isExponent text = true ↔ Exponent text := by
  constructor
  · intro hread
    cases text with
    | nil => exact .absent
    | cons mark rest =>
        rw [isExponent, Bool.and_eq_true, Bool.or_eq_true, beq_iff_eq, beq_iff_eq,
          isDigits_eq_true_iff] at hread
        obtain ⟨sign, hsign, hrest⟩ := exists_dropSign rest
        rw [hrest]
        exact .digits hread.1 hsign hread.2
  · intro hexponent
    cases hexponent with
    | absent => rfl
    | @digits mark sign text hmark hsign htext =>
        have hdrop : dropSign (sign ++ text) = text := by
          rcases hsign with rfl | rfl | rfl
          · exact dropSign_digits htext
          · rfl
          · rfl
        rw [isExponent, hdrop, isDigits_eq_true_iff.mpr htext]
        simpa using hmark

theorem Exponent.stops {text : List Char} (hexponent : Exponent text) :
    Stops Char.isDigit text := by
  intro c hc
  cases hexponent with
  | absent => cases hc
  | digits hmark _ _ =>
      cases hc
      rcases hmark with rfl | rfl <;> rfl

theorem isTail_eq_true_iff {text : List Char} : isTail text = true ↔
    ∃ fraction exponent, Fraction fraction ∧ Exponent exponent ∧ text = fraction ++ exponent := by
  constructor
  · intro hread
    unfold isTail at hread
    split at hread
    · rename_i rest
      rw [Bool.and_eq_true, isDigits_eq_true_iff, isExponent_eq_true_iff] at hread
      exact ⟨_, _, .digits hread.1, hread.2, by simp⟩
    · exact ⟨[], text, .absent, isExponent_eq_true_iff.mp hread, rfl⟩
  · rintro ⟨fraction, exponent, hfraction, hexponent, rfl⟩
    cases hfraction with
    | absent =>
        rw [List.nil_append, isTail, isExponent_eq_true_iff]
        · exact hexponent
        · rintro rest rfl
          cases hexponent with
          | digits hmark => simp at hmark
    | @digits digits hdigits =>
        rw [List.cons_append, isTail, takeWhile_front hdigits.2 hexponent.stops,
          dropWhile_front hdigits.2 hexponent.stops, isDigits_eq_true_iff.mpr hdigits,
          isExponent_eq_true_iff.mpr hexponent]
        rfl

theorem stops_tail {fraction exponent : List Char} (hfraction : Fraction fraction)
    (hexponent : Exponent exponent) : Stops Char.isDigit (fraction ++ exponent) := by
  cases hfraction with
  | absent => exact hexponent.stops
  | digits _ =>
      intro c hc
      cases hc
      rfl

/-- A text with a minus sign, or without. -/
def signed (negative : Bool) (text : List Char) : List Char :=
  if negative then '-' :: text else text

theorem number_of_unsigned? {negative : Bool} {text : List Char} {value : Value}
    (hread : unsigned? negative text = some value) : Number (signed negative text) value := by
  unfold unsigned? at hread
  simp only at hread
  have hsplit : text.takeWhile Char.isDigit ++ text.dropWhile Char.isDigit = text :=
    List.takeWhile_append_dropWhile
  split at hread
  · cases hread
  · rename_i hwhole
    rw [Bool.not_eq_true', Bool.not_eq_false, isWhole_eq_true_iff] at hwhole
    split at hread
    · rename_i hempty
      rw [List.isEmpty_iff.mp hempty, List.append_nil] at hsplit
      rw [hsplit] at hwhole hread
      cases negative with
      | true =>
          cases hread
          exact .negative hwhole
      | false =>
          cases hread
          exact .whole hwhole
    · rename_i hempty
      split at hread
      · rename_i htail
        obtain ⟨fraction, exponent, hfraction, hexponent, heq⟩ := isTail_eq_true_iff.mp htail
        rw [heq] at hempty hsplit
        have hsome : fraction ++ exponent ≠ [] := fun hnil => hempty (List.isEmpty_iff.mpr hnil)
        have hwritten : signed negative text = (if negative then ['-'] else []) ++
            text.takeWhile Char.isDigit ++ fraction ++ exponent := by
          cases negative with
          | true => simp [signed, hsplit]
          | false => simp [signed, hsplit]
        cases hread
        change Number (signed negative text) (.number (String.ofList (signed negative text)))
        rw [hwritten]
        refine .other ?_ hwhole hfraction hexponent hsome
        cases negative with
        | true => exact .inr rfl
        | false => exact .inl rfl
      · cases hread

theorem unsigned?_of_whole {text : List Char} (hwhole : Whole text) (negative : Bool) :
    unsigned? negative text = some (.whole
      (if negative then -Nat.ofDigitChars 10 text 0 else Nat.ofDigitChars 10 text 0)) := by
  have hall : ∀ c ∈ text, c.isDigit = true := hwhole.1.2
  have htake : text.takeWhile Char.isDigit = text := List.takeWhile_eq_self_iff.mpr hall
  have hdrop : text.dropWhile Char.isDigit = [] := List.dropWhile_eq_nil_iff.mpr hall
  simp [unsigned?, htake, hdrop, isWhole_eq_true_iff.mpr hwhole]

theorem unsigned?_of_other {whole fraction exponent : List Char} (hwhole : Whole whole)
    (hfraction : Fraction fraction) (hexponent : Exponent exponent)
    (hsome : fraction ++ exponent ≠ []) (negative : Bool) :
    unsigned? negative (whole ++ (fraction ++ exponent)) = some (.number (String.ofList
      (signed negative (whole ++ (fraction ++ exponent))))) := by
  have hstops := stops_tail hfraction hexponent
  have htail := isTail_eq_true_iff.mpr ⟨fraction, exponent, hfraction, hexponent, rfl⟩
  have hempty : (fraction ++ exponent).isEmpty = false := List.isEmpty_eq_false_iff.mpr hsome
  unfold unsigned?
  simp only [takeWhile_front hwhole.1.2 hstops, dropWhile_front hwhole.1.2 hstops,
    isWhole_eq_true_iff.mpr hwhole, htail, hempty]
  rfl

theorem numeral?_digits {text : List Char} (htext : ∃ c others, text = c :: others ∧ c.isDigit) :
    numeral? text = unsigned? false text := by
  obtain ⟨c, others, rfl, hc⟩ := htext
  unfold numeral?
  split
  · rename_i heq
    cases heq
    cases hc
  · rfl

/-- A numeral is a number of the grammar. -/
theorem numeral?_eq_some_iff {text : List Char} {value : Value} :
    numeral? text = some value ↔ Number text value := by
  constructor
  · intro hread
    unfold numeral? at hread
    split at hread
    · exact number_of_unsigned? hread
    · exact number_of_unsigned? hread
  · intro hnumber
    cases hnumber with
    | whole hwhole =>
        rw [numeral?_digits hwhole.1.exists_cons, unsigned?_of_whole hwhole]
        rfl
    | negative hwhole => exact unsigned?_of_whole hwhole true
    | @other sign whole fraction exponent hsign hwhole hfraction hexponent hsome =>
        rw [List.append_assoc, List.append_assoc]
        rcases hsign with rfl | rfl
        · obtain ⟨c, others, heq, hc⟩ := hwhole.1.exists_cons
          rw [List.nil_append, numeral?_digits ⟨c, others ++ _, by rw [heq]; rfl, hc⟩]
          exact unsigned?_of_other hwhole hfraction hexponent hsome false
        · exact unsigned?_of_other hwhole hfraction hexponent hsome true

theorem isNumeral_of_isDigit {c : Char} (hdigit : c.isDigit = true) : isNumeral c = true := by
  simp [isNumeral, hdigit]

/-- All characters of a number are such that numbers are made of. -/
theorem isNumeral_of_number {text : List Char} {value : Value} (hnumber : Number text value) :
    ∀ c ∈ text, isNumeral c = true := by
  have hdigits {digits : List Char} (htext : Digits digits) : ∀ c ∈ digits, isNumeral c = true :=
    fun c hc => isNumeral_of_isDigit (htext.2 c hc)
  cases hnumber with
  | whole hwhole => exact hdigits hwhole.1
  | negative hwhole => exact List.forall_mem_cons.mpr ⟨rfl, hdigits hwhole.1⟩
  | @other sign whole fraction exponent hsign hwhole hfraction hexponent hsome =>
      have hsigns : ∀ c ∈ sign, isNumeral c = true := by
        rcases hsign with rfl | rfl
        · exact List.forall_mem_nil _
        · exact List.forall_mem_singleton.mpr rfl
      have hfractions : ∀ c ∈ fraction, isNumeral c = true := by
        cases hfraction with
        | absent => exact List.forall_mem_nil _
        | digits htext => exact List.forall_mem_cons.mpr ⟨rfl, hdigits htext⟩
      have hexponents : ∀ c ∈ exponent, isNumeral c = true := by
        cases hexponent with
        | absent => exact List.forall_mem_nil _
        | @digits mark sign text hmark hsign htext =>
            refine List.forall_mem_cons.mpr ⟨?_, List.forall_mem_append.mpr ⟨?_, hdigits htext⟩⟩
            · rcases hmark with rfl | rfl <;> rfl
            · rcases hsign with rfl | rfl | rfl
              · exact List.forall_mem_nil _
              · exact List.forall_mem_singleton.mpr rfl
              · exact List.forall_mem_singleton.mpr rfl
      exact List.forall_mem_append.mpr ⟨List.forall_mem_append.mpr
        ⟨List.forall_mem_append.mpr ⟨hsigns, hdigits hwhole.1⟩, hfractions⟩, hexponents⟩

theorem exists_lead_of_number {text : List Char} {value : Value} (hnumber : Number text value) :
    ∃ c others, text = c :: others ∧ isNumeral c = true := by
  have hsome : text ≠ [] := by
    cases hnumber with
    | whole hwhole => exact hwhole.1.1
    | negative _ => exact List.cons_ne_nil _ _
    | other _ hwhole _ _ _ => simp [hwhole.1.1]
  obtain ⟨c, others, rfl⟩ := List.exists_cons_of_ne_nil hsome
  exact ⟨c, others, rfl, isNumeral_of_number hnumber c List.mem_cons_self⟩

theorem isNumeral_of_isBlank {c : Char} (hblank : isBlank c = true) : isNumeral c = false := by
  simp only [isBlank, Bool.or_eq_true, beq_iff_eq] at hblank
  rcases hblank with ((rfl | rfl) | rfl) | rfl <;> rfl

/-- A number goes as far as the characters that numbers are made of. -/
theorem number?_eq_some_iff {text rest : List Char} {value : Value} :
    number? text = some (value, rest) ↔
      ∃ front, Number front value ∧ text = front ++ rest ∧ Stops isNumeral rest := by
  constructor
  · intro hread
    obtain ⟨found, hfound, hpair⟩ := Option.map_eq_some_iff.mp hread
    obtain ⟨rfl, rfl⟩ := Prod.mk.inj hpair
    exact ⟨text.takeWhile isNumeral, numeral?_eq_some_iff.mp hfound,
      List.takeWhile_append_dropWhile.symm, stops_dropWhile isNumeral text⟩
  · rintro ⟨front, hnumber, rfl, hstops⟩
    have hfront := isNumeral_of_number hnumber
    rw [number?, takeWhile_front hfront hstops, dropWhile_front hfront hstops,
      numeral?_eq_some_iff.mpr hnumber]
    rfl

end EventDispatch.Text.Json
