import Mathlib.Data.List.TakeWhile
import EventDispatch.Source.Tree

/-!
# Lexemes at the front of a text

A text that starts with a character of an identifier has an identifier for its
first lexeme, unless a literal opens there (`lexemeAt_of_ident`).

The other lemmas compare a text with the text that has more behind it.  What
begins with a blank, a delimiter or one of some marks (`isCut`) goes on no
identifier and makes no literal of one (`lexemeAt_ident_append`).  A colon opens
no comment either; only a line comment at the end of the text swallows what
follows (`blankLength?_append_colon`).
-/

namespace EventDispatch.Source

open Text.Identifier

/-! ## Fronts of longer texts -/

theorem isPrefixOf_append_cons {mark : Char} {pattern : List Char} (hmark : mark ∉ pattern)
    (text rest : List Char) :
    pattern.isPrefixOf (text ++ mark :: rest) = pattern.isPrefixOf text := by
  induction pattern generalizing text with
  | nil => simp
  | cons first others ih =>
      rw [List.mem_cons, not_or] at hmark
      cases text with
      | nil =>
          have hne : (first == mark) = false := by simpa using Ne.symm hmark.1
          simp [List.isPrefixOf, hne]
      | cons c text => simp [List.isPrefixOf, ih hmark.2]

theorem takeWhile_append_cons {test : Char → Bool} {mark : Char} (hmark : test mark = false)
    (text rest : List Char) : (text ++ mark :: rest).takeWhile test = text.takeWhile test := by
  induction text with
  | nil => simp [hmark]
  | cons c text ih => simp [List.takeWhile_cons, ih]

/-! ## Characters of no identifier -/

/-- Blanks, quotes, brackets, marks and the byte order mark: what stands around the
identifiers of a text. -/
def strangers : List Char :=
  " \n\"'()[]\x7b\x7d~!@#$%^&*-=+|;:,<.>/?\ufeff".toList

-- The one place where the ranges of the characters are looked through.
theorem isContinue_of_mem_strangers {c : Char} (hmem : c ∈ strangers) : isContinue c = false := by
  have hall : (strangers.all fun mark => !isContinue mark) = true := by decide +kernel
  simpa using List.all_eq_true.mp hall c hmem

theorem isStart_eq_false {c : Char} (hcontinue : isContinue c = false) : isStart c = false := by
  rw [Bool.eq_false_iff]
  intro hstart
  rw [isContinue_of_isStart hstart] at hcontinue
  cases hcontinue

theorem isStart_of_mem_strangers {c : Char} (hmem : c ∈ strangers) : isStart c = false :=
  isStart_eq_false (isContinue_of_mem_strangers hmem)

/-! ## Identifiers are no literals -/

section Start

variable {c : Char} {rest : List Char}

theorem ne_of_isStart (hstart : isStart c = true) {other : Char} (hother : other ∈ strangers) :
    c ≠ other := by
  rintro rfl
  rw [isStart_of_mem_strangers hother] at hstart
  cases hstart

/-- No character in front of the capitals starts an identifier. -/
theorem le_toNat_of_isStart (hstart : isStart c = true) : 65 ≤ c.toNat := by
  rcases Nat.lt_or_ge c.toNat 65 with hlow | hhigh
  · have hcovers : CodeRange.covers startRanges c.toNat = false := by
      rw [startRanges, CodeRange.covers, if_pos hlow]
    simp only [isStart, hcovers, Bool.or_false, beq_iff_eq] at hstart
    rw [hstart] at hlow
    exact absurd hlow (by decide)
  · exact hhigh

theorem isDigit_of_isStart (hstart : isStart c = true) : c.isDigit = false := by
  have hlow := le_toNat_of_isStart hstart
  rw [Bool.eq_false_iff]
  intro hdigit
  simp only [Char.isDigit, Bool.and_eq_true, decide_eq_true_eq] at hdigit
  have : c.toNat ≤ 57 := hdigit.2
  omega

/-- A raw text has a quote behind its number signs. -/
theorem rawLength?_eq_none (alphabet : Alphabet)
    (hquote : (rest.drop (rest.takeWhile (· == '#')).length).head? ≠ some '"') :
    alphabet.rawLength? rest = none := by
  simp only [Alphabet.rawLength?]
  split
  · rename_i hbody
    rw [hbody] at hquote
    exact absurd rfl hquote
  · rfl

/-- With one number sign at most, it is enough to look at what stands behind `r`. -/
theorem head?_drop_ne_quote (hquote : startsWith "\"" rest = false)
    (hraw : startsWith "#\"" rest = false) (hmarks : startsWith "##" rest = false) :
    (rest.drop (rest.takeWhile (· == '#')).length).head? ≠ some '"' := by
  cases rest with
  | nil => simp
  | cons first rest =>
      by_cases hfirst : first = '#'
      · subst hfirst
        cases rest with
        | nil => simp
        | cons second rest =>
            have hsecond : second ≠ '#' := by
              rintro rfl
              cases (show true = false from hmarks)
            have hquote : second ≠ '"' := by
              rintro rfl
              cases (show true = false from hraw)
            simp [hsecond, hquote]
      · have hquote : first ≠ '"' := by
          rintro rfl
          cases (show true = false from hquote)
        simp [hfirst, hquote]

theorem textLength?_eq_none (alphabet : Alphabet) {plain raw : String}
    (hplain : startsWith (plain ++ "\"") rest = false)
    (hraw : startsWith raw rest = true → alphabet.rawLength? (rest.drop raw.length) = none) :
    alphabet.textLength? plain raw rest = none := by
  simp only [Alphabet.textLength?, hplain, Bool.false_eq_true, if_false]
  split
  · rename_i hstarts
    rw [hraw hstarts, Option.map_none]
  · rfl

/-- A hexadecimal digit that starts an identifier is no decimal digit. -/
theorem le_hexValue_of_isStart (hstart : isStart c = true) : 10 ≤ hexValue c := by
  have hlow := le_toNat_of_isStart hstart
  simp only [hexValue, isDigit_of_isStart hstart, Bool.false_eq_true, if_false]
  split
  · omega
  · have : 'A'.toNat = 65 := rfl
    omega

theorem wholeLength?_eq_none (hstart : isStart c = true) : wholeLength? (c :: rest) = none := by
  have hzero : c ≠ '0' := by
    rintro rfl
    cases isDigit_of_isStart hstart
  have hbase : numberBase (c :: rest) = (10, 0) := by
    simp [numberBase, startsWith, List.isPrefixOf, hzero.symm]
  have hvalue : ¬ hexValue c < 10 := Nat.not_lt.mpr (le_hexValue_of_isStart hstart)
  simp [wholeLength?, hbase, wholeDigits?, isDigit_of_isStart hstart, hvalue]

theorem floatLength?_eq_none (hstart : isStart c = true) : floatLength? (c :: rest) = none := by
  simp [floatLength?, isDigit_of_isStart hstart]

theorem characterLength?_eq_none (alphabet : Alphabet) {letters : String}
    (hletters : startsWith (letters ++ "'") rest = false) :
    alphabet.characterLength? letters rest = none := by
  simp [Alphabet.characterLength?, hletters]

theorem startsWith_eq_false_of_head {pattern : String} (first : Char)
    (hpattern : pattern.toList.head? = some first) (hne : c ≠ first) :
    startsWith pattern (c :: rest) = false := by
  unfold startsWith
  cases hlist : pattern.toList with
  | nil => simp [hlist] at hpattern
  | cons other others =>
      rw [hlist, List.head?_cons, Option.some.injEq] at hpattern
      simp [List.isPrefixOf, hpattern, Ne.symm hne]

/-- The same for letters that no number sign follows. -/
theorem head?_drop_ne_quote_of_unmarked (hquote : startsWith "\"" rest = false)
    (hmark : startsWith "#" rest = false) :
    (rest.drop (rest.takeWhile (· == '#')).length).head? ≠ some '"' := by
  cases rest with
  | nil => simp
  | cons first rest =>
      have hfirst : first ≠ '#' := by
        rintro rfl
        cases (show true = false from hmark)
      exact head?_drop_ne_quote hquote (startsWith_eq_false_of_head '#' rfl hfirst)
        (startsWith_eq_false_of_head '#' rfl hfirst)

theorem exists_of_startsWith {pattern : String} {text : List Char}
    (hstarts : startsWith pattern text = true) : ∃ others, text = pattern.toList ++ others := by
  obtain ⟨others, hothers⟩ := List.isPrefixOf_iff_prefix.mp hstarts
  exact ⟨others, hothers.symm⟩

/-- A text that starts like an identifier, and not like a literal, has no literal at its
front. -/
theorem literalLength?_eq_none (hstart : isStart c = true)
    (hplain : startsLiteral (c :: rest) = false) : literalLength? (c :: rest) = none := by
  have hpatterns : ∀ pattern ∈ ["r\"", "r#\"", "r##", "b\"", "b'", "br\"", "br#", "c\"", "cr\"",
      "cr#"], startsWith pattern (c :: rest) = false := by
    simpa only [startsLiteral, List.any_eq_false, Bool.not_eq_true] using hplain
  have hquote : c ≠ '"' := ne_of_isStart hstart (by decide)
  have hprime : c ≠ '\'' := ne_of_isStart hstart (by decide)
  -- A text or a character needs a quote or one of the patterns at the front, and a number a digit.
  have htext : Alphabet.text.textLength? "" "r" (c :: rest) = none := by
    refine textLength?_eq_none _ (startsWith_eq_false_of_head '"' rfl hquote) fun hraw => ?_
    obtain ⟨others, hothers⟩ := exists_of_startsWith hraw
    obtain ⟨rfl, rfl⟩ := List.cons.inj (show c :: rest = 'r' :: others from hothers)
    exact rawLength?_eq_none _ (head?_drop_ne_quote (hpatterns "r\"" (by simp))
      (hpatterns "r#\"" (by simp)) (hpatterns "r##" (by simp)))
  have hbytes : Alphabet.bytes.textLength? "b" "br" (c :: rest) = none := by
    refine textLength?_eq_none _ (hpatterns "b\"" (by simp)) fun hraw => ?_
    obtain ⟨others, hothers⟩ := exists_of_startsWith hraw
    obtain ⟨rfl, rfl⟩ := List.cons.inj (show c :: rest = 'b' :: 'r' :: others from hothers)
    exact rawLength?_eq_none _ (head?_drop_ne_quote_of_unmarked (hpatterns "br\"" (by simp))
      (hpatterns "br#" (by simp)))
  have hnulFree : Alphabet.nulFree.textLength? "c" "cr" (c :: rest) = none := by
    refine textLength?_eq_none _ (hpatterns "c\"" (by simp)) fun hraw => ?_
    obtain ⟨others, hothers⟩ := exists_of_startsWith hraw
    obtain ⟨rfl, rfl⟩ := List.cons.inj (show c :: rest = 'c' :: 'r' :: others from hothers)
    exact rawLength?_eq_none _ (head?_drop_ne_quote_of_unmarked (hpatterns "cr\"" (by simp))
      (hpatterns "cr#" (by simp)))
  have hbyte : Alphabet.bytes.characterLength? "b" (c :: rest) = none :=
    characterLength?_eq_none _ (hpatterns "b'" (by simp))
  have hcharacter : Alphabet.text.characterLength? "" (c :: rest) = none :=
    characterLength?_eq_none _ (startsWith_eq_false_of_head '\'' rfl hprime)
  simp [literalLength?, htext, hbytes, hnulFree, hbyte, hcharacter, floatLength?_eq_none hstart,
    wholeLength?_eq_none hstart]

/-! ## Identifiers as lexemes -/

theorem isStart_of_identOrRawLength? {length : Nat}
    (hlength : identOrRawLength? (c :: rest) = some length) : isStart c = true := by
  unfold identOrRawLength? at hlength
  split at hlength
  · rename_i hraw
    obtain ⟨others, hothers⟩ := exists_of_startsWith hraw
    obtain ⟨rfl, rfl⟩ := List.cons.inj (show c :: rest = 'r' :: '#' :: others from hothers)
    decide +kernel
  · by_cases hstart : isStart c = true
    · exact hstart
    · simp [identLength?, hstart] at hlength

/-- What starts with neither a blank nor a slash is no blank and no comment. -/
theorem blankLength?_eq_none (hblank : isBlank c = false) (hslash : c ≠ '/') :
    blankLength? (c :: rest) = none := by
  have hstarts (pattern : String) (hpattern : pattern.toList.head? = some '/') :
      startsWith pattern (c :: rest) = false := startsWith_eq_false_of_head '/' hpattern hslash
  have hcomment : commentLength? (c :: rest) = none := by
    simp [commentLength?, blockLength?, hstarts "//" rfl, hstarts "/**/" rfl, hstarts "/*!" rfl,
      hstarts "/**" rfl, hstarts "/*" rfl]
  simp [blankLength?, hblank, hcomment]

theorem docLength?_eq_none (hslash : c ≠ '/') : docLength? (c :: rest) = none := by
  have hstarts (pattern : String) (hpattern : pattern.toList.head? = some '/') :
      startsWith pattern (c :: rest) = false := startsWith_eq_false_of_head '/' hpattern hslash
  simp [docLength?, hstarts "//!" rfl, hstarts "/*!" rfl, hstarts "///" rfl, hstarts "/**" rfl]

theorem punctLexeme?_eq_none (hmark : isMark c = false) : punctLexeme? (c :: rest) = none := by
  simp [punctLexeme?, startsMark, hmark]

theorem isMark_of_isStart (hstart : isStart c = true) : isMark c = false := by
  have hmarks : "~!@#$%^&*-=+|;:,<.>/?'".toList ⊆ strangers := by decide
  rw [isMark, List.contains_eq_mem, decide_eq_false_iff_not]
  exact fun hmem => ne_of_isStart hstart (hmarks hmem) rfl

theorem openingOf?_of_isStart (hstart : isStart c = true) : openingOf? c = none := by
  unfold openingOf?
  split
  · exact absurd rfl (ne_of_isStart hstart (by decide))
  · exact absurd rfl (ne_of_isStart hstart (by decide))
  · exact absurd rfl (ne_of_isStart hstart (by decide))
  · rfl

theorem closingOf?_of_isStart (hstart : isStart c = true) : closingOf? c = none := by
  unfold closingOf?
  split
  · exact absurd rfl (ne_of_isStart hstart (by decide))
  · exact absurd rfl (ne_of_isStart hstart (by decide))
  · exact absurd rfl (ne_of_isStart hstart (by decide))
  · rfl

/-- Where an identifier stands that opens no literal, the lexeme is that identifier. -/
theorem lexemeAt_of_ident {length : Nat} (hblank : isBlank c = false)
    (hplain : startsLiteral (c :: rest) = false)
    (hlength : identOrRawLength? (c :: rest) = some length) :
    lexemeAt (c :: rest) = (.ident, length) := by
  have hstart := isStart_of_identOrRawLength? hlength
  have hslash : c ≠ '/' := ne_of_isStart hstart (by decide)
  have hplaceholder : startsWith placeholderText (c :: rest) = false :=
    startsWith_eq_false_of_head '(' rfl (ne_of_isStart hstart (by decide))
  have hleaf : leafLexeme? (c :: rest) = some (.ident, length) := by
    simp [leafLexeme?, literalLength?_eq_none hstart hplain,
      punctLexeme?_eq_none (isMark_of_isStart hstart), hplain, hlength]
  simp [lexemeAt, blankLength?_eq_none hblank hslash, docLength?_eq_none hslash, hplaceholder,
    openingOf?_of_isStart hstart, closingOf?_of_isStart hstart, hleaf]

end Start

section Kinds

variable {text : List Char} {kind : LexemeKind} {length : Nat}

theorem kind_of_punctLexeme? (hpunct : punctLexeme? text = some (kind, length)) :
    kind = .lifetime ∨ ∃ joint, kind = .punct joint := by
  simp only [punctLexeme?] at hpunct
  split at hpunct
  · split at hpunct
    · obtain ⟨found, _, hpunct⟩ := Option.bind_eq_some_iff.mp hpunct
      split at hpunct
      · cases hpunct
      · split at hpunct
        · cases hpunct
          exact .inr ⟨true, rfl⟩
        · cases hpunct
          exact .inl rfl
    · cases hpunct
      exact .inr ⟨_, rfl⟩
  · cases hpunct

/-- A leaf is a literal, a lifetime, a punctuation mark, or an identifier. -/
theorem kind_of_leafLexeme? (hleaf : leafLexeme? text = some (kind, length)) :
    (∃ literal, kind = .literal literal) ∨ kind = .lifetime ∨ (∃ joint, kind = .punct joint) ∨
      (kind = .ident ∧ startsLiteral text = false ∧ identOrRawLength? text = some length) := by
  unfold leafLexeme? at hleaf
  split at hleaf
  · cases hleaf
    exact .inl ⟨_, rfl⟩
  · rcases Option.or_eq_some_iff.mp hleaf with hpunct | ⟨_, hident⟩
    · rcases kind_of_punctLexeme? hpunct with hlifetime | hmark
      · exact .inr (.inl hlifetime)
      · exact .inr (.inr (.inl hmark))
    · split at hident
      · cases hident
      · rename_i hplain
        obtain ⟨found, hfound, hkind⟩ := Option.map_eq_some_iff.mp hident
        cases hkind
        exact .inr (.inr (.inr ⟨rfl, Bool.not_eq_true _ ▸ hplain, hfound⟩))

/-- The lexemes that a path is made of. -/
theorem lexemeAt_cases (hlexeme : lexemeAt text = (kind, length)) :
    (kind = .blank ∧ blankLength? text = some length) ∨
      (kind = .ident ∧ blankLength? text = none ∧ startsLiteral text = false ∧
        identOrRawLength? text = some length) ∨
      (kind ≠ .blank ∧ kind ≠ .ident) := by
  unfold lexemeAt at hlexeme
  split at hlexeme
  · rename_i hblank
    cases hlexeme
    exact .inl ⟨rfl, hblank⟩
  · rename_i hblank
    split at hlexeme
    · cases hlexeme
      exact .inr (.inr ⟨by simp, by simp⟩)
    · split at hlexeme
      · cases hlexeme
        exact .inr (.inr ⟨by simp, by simp⟩)
      · split at hlexeme
        · cases hlexeme
          exact .inr (.inr ⟨by simp, by simp⟩)
        · cases hlexeme
          exact .inr (.inr ⟨by simp, by simp⟩)
        · cases hleaf : leafLexeme? text with
          | none =>
              rw [hleaf] at hlexeme
              cases hlexeme
              exact .inr (.inr ⟨by simp, by simp⟩)
          | some found =>
              rw [hleaf, Option.getD_some] at hlexeme
              rw [hlexeme] at hleaf
              rcases kind_of_leafLexeme? hleaf with ⟨_, rfl⟩ | rfl | ⟨_, rfl⟩ | ⟨rfl, hident⟩
              · exact .inr (.inr ⟨by simp, by simp⟩)
              · exact .inr (.inr ⟨by simp, by simp⟩)
              · exact .inr (.inr ⟨by simp, by simp⟩)
              · exact .inr (.inl ⟨rfl, hblank, hident⟩)

end Kinds

/-! ## A mark behind a text -/

/-- The character goes on no identifier, and is no part of what opens a literal. -/
def isCut (c : Char) : Bool :=
  " \n()[]\x7b\x7d,:;<>=.&".toList.contains c

theorem isContinue_of_isCut {c : Char} (hcut : isCut c = true) : isContinue c = false := by
  have hmarks : " \n()[]\x7b\x7d,:;<>=.&".toList ⊆ strangers := by decide
  rw [isCut, List.contains_eq_mem, decide_eq_true_eq] at hcut
  exact isContinue_of_mem_strangers (hmarks hcut)

section Append

variable {text rest : List Char} {length : Nat}

theorem startsWith_append_colon {pattern : String} (hpattern : ':' ∉ pattern.toList)
    (text rest : List Char) :
    startsWith pattern (text ++ ':' :: rest) = startsWith pattern text :=
  isPrefixOf_append_cons hpattern text rest

theorem startsWith_append_cut {mark : Char} (hcut : isCut mark = true) {pattern : String}
    (hpattern : pattern.toList.any isCut = false) (text rest : List Char) :
    startsWith pattern (text ++ mark :: rest) = startsWith pattern text := by
  refine isPrefixOf_append_cons (fun hmem => ?_) text rest
  exact List.any_eq_false.mp hpattern mark hmem hcut

theorem identLength?_append_cut {mark : Char} (hcut : isCut mark = true) (rest : List Char)
    (hlength : identLength? text = some length) :
    identLength? (text ++ mark :: rest) = some length ∧ 0 < length ∧ length ≤ text.length := by
  cases text with
  | nil => cases hlength
  | cons c text =>
      by_cases hstart : isStart c = true
      · simp only [identLength?, hstart, if_true, Option.some.injEq] at hlength
        have hbound := (text.takeWhile_prefix isContinue).length_le
        rw [List.cons_append, identLength?, if_pos hstart,
          takeWhile_append_cons (isContinue_of_isCut hcut), hlength, List.length_cons]
        exact ⟨rfl, by omega, by omega⟩
      · simp [identLength?, hstart] at hlength

theorem identOrRawLength?_append_cut {mark : Char} (hcut : isCut mark = true) (rest : List Char)
    (hlength : identOrRawLength? text = some length) :
    identOrRawLength? (text ++ mark :: rest) = some length ∧ 0 < length ∧
      length ≤ text.length := by
  unfold identOrRawLength? at hlength ⊢
  rw [startsWith_append_cut hcut (by decide)]
  split at hlength
  · rename_i hraw
    rw [if_pos hraw]
    obtain ⟨name, hname⟩ := exists_of_startsWith hraw
    obtain rfl : text = 'r' :: '#' :: name := hname
    obtain ⟨found, hfound, hadmitted⟩ := Option.bind_eq_some_iff.mp hlength
    change identLength? name = some found at hfound
    obtain ⟨happend, hpos, hbound⟩ := identLength?_append_cut hcut rest hfound
    change (if notRaw.contains (String.ofList (name.take found)) then none
      else some (found + 2)) = some length at hadmitted
    refine ⟨?_, ?_⟩
    · change (identLength? (name ++ mark :: rest)).bind _ = _
      rw [happend, Option.bind_some]
      change (if notRaw.contains (String.ofList ((name ++ mark :: rest).take found)) then none
        else some (found + 2)) = some length
      rw [List.take_append_of_le_length hbound, hadmitted]
    · split at hadmitted
      · cases hadmitted
      · cases hadmitted
        simp only [List.length_cons]
        omega
  · rename_i hraw
    rw [if_neg hraw]
    exact identLength?_append_cut hcut rest hlength

/-- A block comment is at an end wherever the text goes on. -/
theorem blockTail?_append {depth : Nat} (rest : List Char) :
    blockTail? depth text = some length →
      blockTail? depth (text ++ rest) = some length ∧ 0 < length ∧ length ≤ text.length := by
  fun_induction blockTail? depth text generalizing length with
  | case1 depth text ih =>
      intro hlength
      obtain ⟨found, hfound, rfl⟩ := Option.map_eq_some_iff.mp hlength
      obtain ⟨happend, hpos, hbound⟩ := ih hfound
      refine ⟨?_, by omega, by simp only [List.length_cons]; omega⟩
      rw [List.cons_append, List.cons_append, blockTail?, happend, Option.map_some]
  | case2 depth text hdepth =>
      intro hlength
      cases hlength
      refine ⟨?_, by omega, by simp only [List.length_cons]; omega⟩
      rw [List.cons_append, List.cons_append, blockTail?, if_pos hdepth]
  | case3 depth text hdepth ih =>
      intro hlength
      obtain ⟨found, hfound, rfl⟩ := Option.map_eq_some_iff.mp hlength
      obtain ⟨happend, hpos, hbound⟩ := ih hfound
      refine ⟨?_, by omega, by simp only [List.length_cons]; omega⟩
      rw [List.cons_append, List.cons_append, blockTail?, if_neg hdepth, happend, Option.map_some]
  | case4 depth c text hopen hclose ih =>
      intro hlength
      obtain ⟨found, hfound, rfl⟩ := Option.map_eq_some_iff.mp hlength
      obtain ⟨happend, hpos, hbound⟩ := ih hfound
      refine ⟨?_, by omega, by simp only [List.length_cons]; omega⟩
      -- The next character is in the text, so that no mark arises where the two meet.
      cases text with
      | nil => cases hfound
      | cons next text =>
          rw [List.cons_append] at happend
          rw [List.cons_append, List.cons_append, blockTail?, happend, Option.map_some]
          · rintro others rfl hothers
            exact hopen text rfl (by rw [(List.cons.inj hothers).1])
          · rintro others rfl hothers
            exact hclose text rfl (by rw [(List.cons.inj hothers).1])
  | case5 depth =>
      intro hlength
      cases hlength

/-- A line that ends in the text ends there whatever follows; otherwise it goes on. -/
theorem lineLength_append_colon (text rest : List Char) :
    (lineLength text < text.length ∧
        lineLength (text ++ ':' :: rest) = lineLength text) ∨
      (lineLength text = text.length ∧
        lineLength (text ++ ':' :: rest) = text.length + lineLength (':' :: rest)) := by
  fun_induction lineLength text with
  | case1 => exact .inr ⟨rfl, by simp⟩
  | case2 text => exact .inl ⟨by simp, rfl⟩
  | case3 text => exact .inl ⟨by simp, rfl⟩
  | case4 c text hend hreturn ih =>
      have happend : lineLength (c :: text ++ ':' :: rest) =
          lineLength (text ++ ':' :: rest) + 1 := by
        rw [List.cons_append, lineLength]
        · exact hend
        · rintro others rfl hothers
          cases text with
          | nil => cases hothers
          | cons next text => exact hreturn text rfl (by rw [(List.cons.inj hothers).1])
      rw [happend, List.length_cons]
      omega

theorem lineLength_eq_length (hend : '\n' ∉ text) : lineLength text = text.length := by
  fun_induction lineLength text with
  | case1 => rfl
  | case2 text => simp at hend
  | case3 text => simp at hend
  | case4 c text _ _ ih =>
      rw [ih fun hmem => hend (List.mem_cons_of_mem c hmem), List.length_cons]

/-- A block comment is the same wherever the text goes on. -/
theorem blockLength?_append_colon (rest : List Char)
    (hlength : blockLength? text = some length) :
    blockLength? (text ++ ':' :: rest) = some length ∧ 0 < length ∧ length ≤ text.length := by
  unfold blockLength? at hlength ⊢
  rw [startsWith_append_colon (by decide)]
  split at hlength
  · rename_i hblock
    rw [if_pos hblock]
    exact blockTail?_append (':' :: rest) hlength
  · cases hlength

/-- A line either ends in the text, or swallows what follows. -/
theorem lineLength_append_of_startsWith (rest : List Char) (hline : startsWith "//" text = true) :
    0 < lineLength text ∧ lineLength text ≤ text.length ∧
      (lineLength (text ++ ':' :: rest) = lineLength text ∨
        (lineLength text = text.length ∧
          lineLength (text ++ ':' :: rest) = text.length + lineLength (':' :: rest))) := by
  have hpos : 0 < lineLength text := by
    obtain ⟨others, hothers⟩ := exists_of_startsWith hline
    obtain rfl : text = '/' :: '/' :: others := hothers
    exact Nat.succ_pos _
  rcases lineLength_append_colon text rest with ⟨hends, happend⟩ | ⟨hends, happend⟩
  · exact ⟨hpos, Nat.le_of_lt hends, .inl happend⟩
  · exact ⟨hpos, Nat.le_of_eq hends, .inr ⟨hends, happend⟩⟩

/-- A comment either ends in the text, or is a line that swallows what follows. -/
theorem commentLength?_append_colon (rest : List Char)
    (hlength : commentLength? text = some length) :
    0 < length ∧ length ≤ text.length ∧
      (commentLength? (text ++ ':' :: rest) = some length ∨
        (length = text.length ∧ commentLength? (text ++ ':' :: rest) =
          some (text.length + lineLength (':' :: rest)))) := by
  unfold commentLength? at hlength ⊢
  -- What kind of comment it is, is seen in the text.
  simp only [startsWith_append_colon (show ':' ∉ "//".toList by decide),
    startsWith_append_colon (show ':' ∉ "//!".toList by decide),
    startsWith_append_colon (show ':' ∉ "///".toList by decide),
    startsWith_append_colon (show ':' ∉ "////".toList by decide),
    startsWith_append_colon (show ':' ∉ "/**/".toList by decide),
    startsWith_append_colon (show ':' ∉ "/*!".toList by decide),
    startsWith_append_colon (show ':' ∉ "/**".toList by decide),
    startsWith_append_colon (show ':' ∉ "/***".toList by decide)]
  by_cases hline : startsWith "//" text = true
  · -- Only a line has an end that depends on what follows the text.
    rw [if_pos hline] at hlength ⊢
    split at hlength
    · cases hlength
    · rename_i hplain
      cases hlength
      rw [if_neg hplain]
      simpa only [Option.some.injEq] using lineLength_append_of_startsWith rest hline
  · rw [if_neg hline] at hlength ⊢
    by_cases hempty : startsWith "/**/" text = true
    · rw [if_pos hempty] at hlength ⊢
      obtain ⟨others, hothers⟩ := exists_of_startsWith hempty
      obtain rfl : text = '/' :: '*' :: '*' :: '/' :: others := hothers
      cases hlength
      exact ⟨by omega, by simp only [List.length_cons]; omega, .inl rfl⟩
    · rw [if_neg hempty] at hlength ⊢
      split at hlength
      · cases hlength
      · rename_i hplain
        rw [if_neg hplain]
        obtain ⟨happend, hpos, hbound⟩ := blockLength?_append_colon rest hlength
        exact ⟨hpos, hbound, .inl happend⟩

/-- Blanks either end in the text, or are a line comment that swallows what follows. -/
theorem blankLength?_append_colon (rest : List Char)
    (hlength : blankLength? text = some length) :
    0 < length ∧ length ≤ text.length ∧
      (blankLength? (text ++ ':' :: rest) = some length ∨
        (length = text.length ∧ blankLength? (text ++ ':' :: rest) =
          some (text.length + lineLength (':' :: rest)))) := by
  have hbound := (text.takeWhile_prefix isBlank).length_le
  unfold blankLength? at hlength ⊢
  rw [takeWhile_append_cons (by decide)]
  split at hlength
  · exact commentLength?_append_colon rest hlength
  · rename_i blanks hne
    obtain rfl := Option.some.inj hlength
    exact ⟨List.length_pos_iff.mpr hne, hbound, .inl rfl⟩

end Append

/-! ## Marks of paths -/

theorem lexemeAt_colon (rest : List Char) :
    lexemeAt (':' :: rest) = (.punct (startsMark rest), 1) := by
  rfl

theorem startsMark_append_colon {text : List Char} (htext : text ≠ []) (rest : List Char) :
    startsMark (text ++ ':' :: rest) = startsMark text := by
  unfold startsMark
  rw [startsWith_append_colon (by decide), startsWith_append_colon (by decide)]
  cases text with
  | nil => exact absurd rfl htext
  | cons c text => rfl

/-! ## The lexemes of a text -/

theorem lexemes_nil : lexemes [] = [] := by
  rw [lexemes.eq_def]

theorem lexemes_cons (c : Char) (rest : List Char) {kind : LexemeKind} {length : Nat}
    (hlexeme : lexemeAt (c :: rest) = (kind, length)) :
    lexemes (c :: rest) = { kind, text := (c :: rest).take (length - 1 + 1) } ::
      lexemes (rest.drop (length - 1)) := by
  rw [lexemes.eq_def]
  -- Otherwise the lexeme would be evaluated.
  generalize hfound : lexemeAt (c :: rest) = found at hlexeme
  subst hlexeme
  simp only [hfound]

theorem lexemes_eq_cons {text : List Char} {kind : LexemeKind} {length : Nat}
    (hlexeme : lexemeAt text = (kind, length)) (hpos : 0 < length) (hbound : length ≤ text.length) :
    lexemes text = { kind, text := text.take length } :: lexemes (text.drop length) := by
  cases text with
  | nil =>
      rw [List.length_nil] at hbound
      omega
  | cons c rest =>
      obtain ⟨before, rfl⟩ : ∃ before, length = before + 1 := ⟨length - 1, by omega⟩
      rw [lexemes_cons c rest hlexeme, Nat.add_sub_cancel, List.drop_succ_cons]

theorem lexemeAt_of_blank {text : List Char} {length : Nat}
    (hlength : blankLength? text = some length) : lexemeAt text = (.blank, length) := by
  rw [lexemeAt, hlength]

theorem isBlank_eq_false {c : Char} {rest : List Char} (hnone : blankLength? (c :: rest) = none) :
    isBlank c = false := by
  cases hblank : isBlank c with
  | false => rfl
  | true => simp [blankLength?, hblank] at hnone

theorem startsLiteral_append_cut {mark : Char} (hcut : isCut mark = true) (text rest : List Char) :
    startsLiteral (text ++ mark :: rest) = startsLiteral text := by
  have hpatterns : ∀ pattern ∈ ["r\"", "r#\"", "r##", "b\"", "b'", "br\"", "br#", "c\"", "cr\"",
      "cr#"], pattern.toList.any isCut = false := by
    decide
  unfold startsLiteral
  rw [Bool.eq_iff_iff, List.any_eq_true, List.any_eq_true]
  refine exists_congr fun pattern => and_congr_right fun hpattern => ?_
  rw [startsWith_append_cut hcut (hpatterns pattern hpattern)]

/-- An identifier stays the first lexeme when a mark follows that does not go on with it. -/
theorem lexemeAt_ident_append {text : List Char} {length : Nat} (mark : Char)
    (hcut : isCut mark = true) (rest : List Char) (hlexeme : lexemeAt text = (.ident, length)) :
    0 < length ∧ length ≤ text.length ∧ lexemeAt (text ++ mark :: rest) = (.ident, length) := by
  rcases lexemeAt_cases hlexeme with ⟨hkind, _⟩ | ⟨_, hblank, hplain, hlength⟩ | ⟨_, hkind⟩
  · cases hkind
  · cases text with
    | nil => cases hlength
    | cons c text =>
        obtain ⟨happend, hpos, hbound⟩ := identOrRawLength?_append_cut hcut rest hlength
        refine ⟨hpos, hbound, lexemeAt_of_ident (isBlank_eq_false hblank) ?_ happend⟩
        exact (startsLiteral_append_cut hcut (c :: text) rest).trans hplain
  · exact absurd rfl hkind

/-! ## Identifiers -/

theorem newline_notMem_of_identLength? {text : List Char}
    (hlength : identLength? text = some text.length) : '\n' ∉ text := by
  cases text with
  | nil => cases hlength
  | cons c rest =>
      by_cases hstart : isStart c = true
      · simp only [identLength?, hstart, if_true, Option.some.injEq, List.length_cons] at hlength
        have hwhole : rest.takeWhile isContinue = rest :=
          (List.takeWhile_prefix isContinue).eq_of_length (by omega)
        have hall : rest.all isContinue = true := hwhole ▸ List.all_takeWhile
        intro hmem
        rcases List.mem_cons.mp hmem with rfl | hmem
        · exact ne_of_isStart hstart (by decide) rfl
        · have hcontinue := List.all_eq_true.mp hall _ hmem
          rw [isContinue_of_mem_strangers (by decide)] at hcontinue
          cases hcontinue
      · simp [identLength?, hstart] at hlength

theorem newline_notMem_of_identOrRawLength? {text : List Char}
    (hlength : identOrRawLength? text = some text.length) : '\n' ∉ text := by
  unfold identOrRawLength? at hlength
  split at hlength
  · rename_i hraw
    obtain ⟨name, hname⟩ := exists_of_startsWith hraw
    obtain rfl : text = 'r' :: '#' :: name := hname
    obtain ⟨found, hfound, hadmitted⟩ := Option.bind_eq_some_iff.mp hlength
    change identLength? name = some found at hfound
    split at hadmitted
    · cases hadmitted
    · simp only [List.length_cons, Option.some.injEq, Nat.add_right_cancel_iff] at hadmitted
      rw [hadmitted] at hfound
      simpa using newline_notMem_of_identLength? hfound
  · exact newline_notMem_of_identLength? hlength

namespace Ident

theorem length_pos (name : Ident) : 0 < name.text.toList.length :=
  (lexemeAt_ident_append ':' rfl [] name.isLexeme).1

theorem lexemes_eq (name : Ident) :
    lexemes name.text.toList = [{ kind := .ident, text := name.text.toList }] := by
  have hcons := lexemes_eq_cons name.isLexeme name.length_pos (Nat.le_refl _)
  rw [List.take_length, List.drop_length, lexemes_nil] at hcons
  exact hcons

theorem identOrRawLength?_eq (name : Ident) :
    identOrRawLength? name.text.toList = some name.text.toList.length := by
  rcases lexemeAt_cases name.isLexeme with ⟨hkind, _⟩ | ⟨_, _, _, hlength⟩ | ⟨_, hkind⟩
  · cases hkind
  · exact hlength
  · exact absurd rfl hkind

theorem newline_notMem (name : Ident) : '\n' ∉ name.text.toList :=
  newline_notMem_of_identOrRawLength? name.identOrRawLength?_eq

theorem ofChars?_eq_some (name : Ident) : ofChars? name.text.toList = some name := by
  rw [ofChars?, dif_pos name.isLexeme]
  simp

end Ident

end EventDispatch.Source
