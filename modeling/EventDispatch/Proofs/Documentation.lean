import EventDispatch.Dispatch.Printer
import EventDispatch.Proofs.Layout
import EventDispatch.Proofs.Quotation

/-!
# Documentation comments

A line of documentation is written behind three slashes, in a block comment, or as an
attribute.  In each form it is read as the attribute that it stands for
(`spoken_docLayout`), unless a carriage return stands in a comment without a line feed
behind it: then no lexeme begins at the comment (`build_of_stray`).

Block comments nest.  A text goes into one only where its own comments are closed
(`blockTail?_of_commentDepth?`), which the blanks taken from the ends of its lines do
not change (`commentDepth?_trimLineEnds`).
-/

namespace EventDispatch.Source

open Dispatch (commentDepth? trimLineEnds)

/-! ## Lines -/

section Lines

variable {text : List Char}

/-- Where a text without line feeds goes on, no line end arises if none can at its end. -/
theorem notLineEnd_append {c : Char} (hline : '\n' ∉ text)
    (hlast : (c :: text).getLast? ≠ some '\r') (rest others : List Char) (hreturn : c = '\r') :
    text ++ rest ≠ '\n' :: others := by
  intro hend
  cases text with
  | nil => exact hlast (by rw [hreturn]; rfl)
  | cons next text =>
      obtain rfl := (List.cons.inj hend).1
      exact hline List.mem_cons_self

theorem getLast?_ne_of_cons {c d : Char} (hlast : (c :: text).getLast? ≠ some d) :
    text.getLast? ≠ some d := by
  intro hend
  exact hlast (by rw [List.getLast?_cons, hend]; rfl)

theorem lineLength_append (hline : '\n' ∉ text) (hlast : text.getLast? ≠ some '\r')
    (rest : List Char) : lineLength (text ++ rest) = text.length + lineLength rest := by
  induction text with
  | nil => simp
  | cons c text ih =>
      rw [List.mem_cons, not_or] at hline
      rw [List.cons_append, lineLength, ih hline.2 (getLast?_ne_of_cons hlast), List.length_cons]
      · omega
      · exact Ne.symm hline.1
      · exact fun others => notLineEnd_append hline.2 hlast rest others

theorem docLineLength_append (hline : '\n' ∉ text) (hlast : text.getLast? ≠ some '\r')
    (rest : List Char) : docLineLength (text ++ rest) = text.length + docLineLength rest := by
  induction text with
  | nil => simp
  | cons c text ih =>
      rw [List.mem_cons, not_or] at hline
      rw [List.cons_append, docLineLength, ih hline.2 (getLast?_ne_of_cons hlast),
        List.length_cons]
      · omega
      · exact Ne.symm hline.1
      · exact fun others => notLineEnd_append hline.2 hlast rest others

end Lines

/-! ## Block comments -/

section Blocks

variable {text : List Char}

/-- A text whose comments are closed goes into a comment: the first closing behind it
that is left over closes that comment. -/
theorem blockTail?_of_commentDepth? {depth : Nat} (hdepth : commentDepth? depth text = some 0)
    (hlast : text.getLast? ≠ some '/') (rest : List Char) :
    blockTail? (depth + 1) (text ++ '*' :: '/' :: rest) = some (text.length + 2) := by
  fun_induction commentDepth? depth text with
  | case1 depth text ih =>
      have hmore := ih hdepth (getLast?_ne_of_cons (getLast?_ne_of_cons hlast))
      rw [List.cons_append, List.cons_append, blockTail?, hmore]
      rfl
  | case2 text => cases hdepth
  | case3 depth text hopen ih =>
      have hmore := ih hdepth (getLast?_ne_of_cons (getLast?_ne_of_cons hlast))
      rw [Nat.sub_add_cancel (Nat.pos_of_ne_zero hopen)] at hmore
      rw [List.cons_append, List.cons_append, blockTail?, if_neg (by omega), Nat.add_sub_cancel,
        hmore]
      rfl
  | case4 depth c text hopen hclose ih =>
      have hmore := ih hdepth (getLast?_ne_of_cons hlast)
      rw [List.cons_append, blockTail?, hmore]
      · rfl
      -- Where the text ends, neither mark arises with the closing behind it.
      · rintro others rfl hothers
        cases text with
        | nil => exact hlast rfl
        | cons next text => exact hopen text rfl (by rw [(List.cons.inj hothers).1])
      · rintro others rfl hothers
        cases text with
        | nil => cases (List.cons.inj hothers).1
        | cons next text => exact hclose text rfl (by rw [(List.cons.inj hothers).1])
  | case5 depth =>
      obtain rfl : depth = 0 := Option.some.inj hdepth
      rfl

theorem commentDepth?_replicate (depth blanks : Nat) (text : List Char) :
    commentDepth? depth (List.replicate blanks ' ' ++ text) = commentDepth? depth text := by
  induction blanks with
  | zero => rfl
  | succ blanks ih =>
      rw [List.replicate_succ, List.cons_append, commentDepth?, ih]
      · simp
      · simp

/-- Behind a blank stands another one or a line end. -/
theorem head?_trimLineEnds_succ (blanks : Nat) (text : List Char) :
    (trimLineEnds (blanks + 1) text).head? = some ' ' ∨
      (trimLineEnds (blanks + 1) text).head? = some '\n' := by
  induction text generalizing blanks with
  | nil => exact .inl rfl
  | cons c text ih =>
      rw [trimLineEnds]
      split
      · exact ih (blanks + 1)
      split
      · exact .inr rfl
      · exact .inl rfl

/-- What stands in front without its blanks stood there with them. -/
theorem head?_of_trimLineEnds {c : Char} (hblank : c ≠ ' ') (hline : c ≠ '\n')
    (hhead : (trimLineEnds 0 text).head? = some c) : text.head? = some c := by
  cases text with
  | nil => cases hhead
  | cons d text =>
      rw [trimLineEnds] at hhead
      split at hhead
      · rcases head?_trimLineEnds_succ 0 text with hspace | hend
        · exact absurd (Option.some.inj (hhead.symm.trans hspace)) hblank
        · exact absurd (Option.some.inj (hhead.symm.trans hend)) hline
      · split at hhead
        · exact absurd (Option.some.inj hhead).symm hline
        · exact hhead

/-- Two characters that end no line stay, with the blanks in front of them. -/
theorem trimLineEnds_pair {c d : Char} (hfirst : c ≠ ' ' ∧ c ≠ '\n')
    (hsecond : d ≠ ' ' ∧ d ≠ '\n') (blanks : Nat) (text : List Char) :
    trimLineEnds blanks (c :: d :: text) =
      List.replicate blanks ' ' ++ c :: d :: trimLineEnds 0 text := by
  simp [trimLineEnds, hfirst, hsecond]

/-- The blanks at the ends of lines are no part of a mark. -/
theorem commentDepth?_trimLineEnds (depth blanks : Nat) :
    commentDepth? depth (trimLineEnds blanks text) = commentDepth? depth text := by
  fun_induction commentDepth? depth text generalizing blanks with
  | case1 depth text ih =>
      rw [trimLineEnds_pair (by decide) (by decide), commentDepth?_replicate, commentDepth?, ih]
  | case2 text =>
      rw [trimLineEnds_pair (by decide) (by decide), commentDepth?_replicate, commentDepth?,
        if_pos rfl]
  | case3 depth text hopen ih =>
      rw [trimLineEnds_pair (by decide) (by decide), commentDepth?_replicate, commentDepth?,
        if_neg hopen, ih]
  | case4 depth c text hopen hclose ih =>
      rw [trimLineEnds]
      split
      · exact ih (blanks + 1)
      split
      · rw [commentDepth?, ih]
        · simp
        · simp
      · -- A mark that arises from the character and the next one stood in the text before.
        rw [commentDepth?_replicate, commentDepth?, ih]
        · rintro others rfl hothers
          have hhead : text.head? = some '*' :=
            head?_of_trimLineEnds (by decide) (by decide) (by rw [hothers, List.head?_cons])
          obtain ⟨rest, rfl⟩ := List.head?_eq_some_iff.mp hhead
          exact hopen rest rfl rfl
        · rintro others rfl hothers
          have hhead : text.head? = some '/' :=
            head?_of_trimLineEnds (by decide) (by decide) (by rw [hothers, List.head?_cons])
          obtain ⟨rest, rfl⟩ := List.head?_eq_some_iff.mp hhead
          exact hclose rest rfl rfl
  | case5 depth =>
      have hblanks := commentDepth?_replicate depth blanks []
      rwa [List.append_nil] at hblanks

/-- A text that ends in neither a blank nor a line end keeps its last character. -/
theorem getLast?_trimLineEnds {c : Char} (hblank : c ≠ ' ') (hline : c ≠ '\n')
    (hlast : text.getLast? = some c) (blanks : Nat) :
    (trimLineEnds blanks text).getLast? = some c := by
  induction text generalizing blanks with
  | nil => cases hlast
  | cons d text ih =>
      rw [trimLineEnds]
      cases text with
      | nil =>
          obtain rfl : d = c := Option.some.inj hlast
          rw [if_neg hblank, if_neg hline]
          simp [trimLineEnds]
      | cons next text =>
          have hmore : (next :: text).getLast? = some c := by rwa [List.getLast?_cons_cons] at hlast
          split
          · exact ih hmore (blanks + 1)
          split
          · rw [List.getLast?_cons, ih hmore 0, Option.getD_some]
          · rw [List.getLast?_append, List.getLast?_cons, ih hmore 0, Option.getD_some,
              Option.some_or]

end Blocks

/-! ## Comments as lexemes -/

section Lexemes

variable {text rest : List Char}

theorem lexemeAt_of_doc {length : Nat} {inner : Bool} (hblank : blankLength? text = none)
    (hdoc : docLength? text = some (length, inner)) : lexemeAt text = (.doc inner, length) := by
  rw [lexemeAt, hblank, hdoc]

/-- Where a comment is neither a blank nor documentation, no lexeme begins. -/
theorem lexemeAt_of_spoilt {c : Char} (hmark : c = '/' ∨ c = '*')
    (hblank : blankLength? ('/' :: c :: rest) = none)
    (hdoc : docLength? ('/' :: c :: rest) = none) :
    lexemeAt ('/' :: c :: rest) = (.stray, ('/' :: c :: rest).length) := by
  have hplaceholder : startsWith placeholderText ('/' :: c :: rest) = false := rfl
  have hliteral : literalLength? ('/' :: c :: rest) = none := by
    simp [literalLength?, Alphabet.textLength?, Alphabet.characterLength?, startsWith,
      floatLength?, wholeLength?, numberBase, wholeDigits?, isHexDigit]
  have hpunct : punctLexeme? ('/' :: c :: rest) = none := by
    rcases hmark with rfl | rfl
    · rfl
    · rfl
  have hident : identOrRawLength? ('/' :: c :: rest) = none := by
    have hstart := isStart_of_mem_strangers (show '/' ∈ strangers by decide)
    simp [identOrRawLength?, startsWith, identLength?, hstart]
  rw [lexemeAt, hblank, hdoc, hplaceholder]
  simp [leafLexeme?, hliteral, hpunct, hident, openingOf?, closingOf?]

/-! ### Comments up to the end of a line -/

theorem startsWith_slashes (hhead : text.head? ≠ some '/') (rest : List Char) :
    startsWith "////" ('/' :: '/' :: '/' :: (text ++ '\n' :: rest)) = false := by
  cases text with
  | nil => rfl
  | cons c text =>
      have hslash : c ≠ '/' := fun heq => hhead (by rw [heq, List.head?_cons])
      change startsWith "/" (c :: (text ++ '\n' :: rest)) = false
      exact startsWith_eq_false_of_head '/' rfl hslash

theorem blankLength?_lineDoc (hhead : text.head? ≠ some '/') (rest : List Char) :
    blankLength? ('/' :: '/' :: '/' :: (text ++ '\n' :: rest)) = none := by
  have hblanks : ('/' :: '/' :: '/' :: (text ++ '\n' :: rest)).takeWhile isBlank = [] := rfl
  rw [blankLength?, hblanks]
  simp only [commentLength?, startsWith_slashes hhead]
  rfl

theorem docLength?_lineDoc (hhead : text.head? ≠ some '/') (hline : '\n' ∉ text)
    (hlast : text.getLast? ≠ some '\r') (rest : List Char) :
    docLength? ('/' :: '/' :: '/' :: (text ++ '\n' :: rest)) =
      if hasBareReturn text then none else some (text.length + 3, false) := by
  have hbody : (text ++ '\n' :: rest).take (docLineLength (text ++ '\n' :: rest)) = text := by
    rw [docLineLength_append hline hlast, docLineLength, Nat.add_zero, List.take_left]
  have hlength : 3 + lineLength (text ++ '\n' :: rest) = text.length + 3 := by
    rw [lineLength_append hline hlast, lineLength]
    omega
  simp only [docLength?, startsWith_slashes hhead]
  change (if hasBareReturn ((text ++ '\n' :: rest).take (docLineLength (text ++ '\n' :: rest)))
    then none else some (3 + lineLength (text ++ '\n' :: rest), false)) = _
  rw [hbody, hlength]

/-! ### Block comments -/

section Block

variable {c : Char} (hhead : c = ' ' ∨ c = '\n')

include hhead

theorem blankLength?_blockDoc (rest : List Char) :
    blankLength? ('/' :: '*' :: '*' :: c :: rest) = none := by
  rcases hhead with rfl | rfl
  · rfl
  · rfl

theorem blockLength?_doc (hdepth : commentDepth? 0 (c :: text) = some 0)
    (hlast : (c :: text).getLast? ≠ some '/') (rest : List Char) :
    blockLength? ('/' :: '*' :: '*' :: c :: (text ++ '*' :: '/' :: rest)) =
      some (text.length + 6) := by
  have htail := blockTail?_of_commentDepth? hdepth hlast rest
  have hslash : c ≠ '/' := by
    rcases hhead with rfl | rfl <;> decide
  have hopening : startsWith "/*" ('/' :: '*' :: '*' :: c :: (text ++ '*' :: '/' :: rest)) =
    true := rfl
  rw [List.cons_append] at htail
  rw [blockLength?, if_pos hopening, blockTail?, blockTail?, htail]
  · rfl
  · simp
  · intro others _ hothers
    exact hslash (List.cons.inj hothers).1

theorem docLength?_blockDoc (hdepth : commentDepth? 0 (c :: text) = some 0)
    (hlast : (c :: text).getLast? ≠ some '/') (rest : List Char) :
    docLength? ('/' :: '*' :: '*' :: c :: (text ++ '*' :: '/' :: rest)) =
      if hasBareReturn (c :: text) then none else some (text.length + 6, false) := by
  have hinner : ((c :: (text ++ '*' :: '/' :: rest)).take (text.length + 1)) = c :: text := by
    rw [List.take_succ_cons, List.take_left]
  have hstar : startsWith "/***" ('/' :: '*' :: '*' :: c :: (text ++ '*' :: '/' :: rest)) =
      false := by
    rcases hhead with rfl | rfl <;> rfl
  simp only [docLength?, blockLength?_doc hhead hdepth hlast, hstar]
  change (if hasBareReturn ((c :: (text ++ '*' :: '/' :: rest)).take (text.length + 1))
    then none else some (text.length + 6, false)) = _
  rw [hinner]

end Block

end Lexemes

/-! ## Comments as trees -/

/-- Documentation is read as the attribute that it stands for. -/
theorem yields_doc {text rest : List Char}
    (hlexeme : lexemeAt (text ++ rest) = (.doc false, text.length)) (hpos : 0 < text.length) :
    Yields (text ++ rest) Forest.doc rest := by
  intro line frames read
  refine ⟨Tree.ofDoc false line, ?_, line + text.count '\n', ?_⟩
  · exact ⟨_, ⟨_, _, rfl⟩, _, ⟨_, _, _, ⟨_, ⟨_, ⟨_, _, rfl, rfl⟩, _, ⟨_, _, rfl⟩, rfl⟩, _,
      ⟨_, _, rfl⟩, rfl⟩, rfl⟩, rfl⟩
  · rw [lexemes_eq_cons hlexeme hpos (by simp), List.take_left, List.drop_left, Tree.build]

end EventDispatch.Source

namespace EventDispatch.Dispatch

open Layout Source Text.Escape

/-- A line of documentation as generated code has them: empty, or a sentence behind a blank. -/
def IsDocLine (doc : List Char) : Prop :=
  doc = [] ∨ doc.head? = some ' ' ∧ doc.getLast? = some '.'

/-- The line is written as a comment, and a carriage return stands in the comment
without a line feed behind it. -/
def hasStrayReturn (doc : String) : Bool :=
  if !doc.toList.contains '\n' then hasBareReturn doc.toList
  else commentDepth? 0 doc.toList = some 0 && hasBareReturn (trimLineEnds 0 doc.toList)

section Forms

variable {doc : String} (hdoc : IsDocLine doc.toList)

include hdoc

/-- Documentation without line ends is one lexeme, or none with a stray return in it. -/
theorem lexemeAt_line (hline : '\n' ∉ doc.toList) (rest : List Char) :
    lexemeAt (("///" ++ doc).toList ++ '\n' :: rest) =
      if hasBareReturn doc.toList then (.stray, (("///" ++ doc).toList ++ '\n' :: rest).length)
      else (.doc false, ("///" ++ doc).toList.length) := by
  have hhead : doc.toList.head? ≠ some '/' := by
    rcases hdoc with hnil | ⟨hhead, _⟩
    · simp [hnil]
    · simp [hhead]
  have hlast : doc.toList.getLast? ≠ some '\r' := by
    rcases hdoc with hnil | ⟨_, hlast⟩
    · simp [hnil]
    · simp [hlast]
  have hblank := blankLength?_lineDoc hhead rest
  have hlexeme := docLength?_lineDoc hhead hline hlast rest
  have hform : ("///" ++ doc).toList = '/' :: '/' :: '/' :: doc.toList := by
    rw [String.toList_append]
    rfl
  rw [hform]
  cases hreturn : hasBareReturn doc.toList with
  | false =>
      rw [hreturn] at hlexeme
      exact lexemeAt_of_doc hblank hlexeme
  | true =>
      rw [hreturn] at hlexeme
      exact lexemeAt_of_spoilt (.inl rfl) hblank hlexeme

/-- The same for a text of several lines in a comment. -/
theorem lexemeAt_block (hline : '\n' ∈ doc.toList) (hdepth : commentDepth? 0 doc.toList = some 0)
    (rest : List Char) :
    lexemeAt (("/**" ++ String.ofList (trimLineEnds 0 doc.toList) ++ "*/").toList ++ rest) =
      if hasBareReturn (trimLineEnds 0 doc.toList) then (.stray,
        (("/**" ++ String.ofList (trimLineEnds 0 doc.toList) ++ "*/").toList ++ rest).length)
      else (.doc false,
        ("/**" ++ String.ofList (trimLineEnds 0 doc.toList) ++ "*/").toList.length) := by
  obtain ⟨hfront, hend⟩ : doc.toList.head? = some ' ' ∧ doc.toList.getLast? = some '.' :=
    hdoc.resolve_left fun hnil => by simp [hnil] at hline
  obtain ⟨others, hothers⟩ := List.head?_eq_some_iff.mp hfront
  -- The blank in front is either kept or is all that its line had.
  obtain ⟨c, text, htrim, hhead⟩ : ∃ c text, trimLineEnds 0 doc.toList = c :: text ∧
      (c = ' ' ∨ c = '\n') := by
    rw [hothers, trimLineEnds, if_pos rfl]
    rcases head?_trimLineEnds_succ 0 others with hhead | hhead
    · obtain ⟨text, htext⟩ := List.head?_eq_some_iff.mp hhead
      exact ⟨_, text, htext, .inl rfl⟩
    · obtain ⟨text, htext⟩ := List.head?_eq_some_iff.mp hhead
      exact ⟨_, text, htext, .inr rfl⟩
  have hclosed : commentDepth? 0 (c :: text) = some 0 := by
    rw [← htrim, commentDepth?_trimLineEnds, hdepth]
  have hlast : (c :: text).getLast? ≠ some '/' := by
    rw [← htrim, getLast?_trimLineEnds (by decide) (by decide) hend]
    decide
  have hblank := blankLength?_blockDoc hhead (text ++ '*' :: '/' :: rest)
  have hlexeme := docLength?_blockDoc hhead hclosed hlast rest
  have hform : ("/**" ++ String.ofList (trimLineEnds 0 doc.toList) ++ "*/").toList =
      '/' :: '*' :: '*' :: c :: (text ++ ['*', '/']) := by
    simp [htrim]
  have hrest : '/' :: '*' :: '*' :: c :: (text ++ ['*', '/']) ++ rest =
      '/' :: '*' :: '*' :: c :: (text ++ '*' :: '/' :: rest) := by
    simp
  rw [hform, hrest, htrim]
  cases hreturn : hasBareReturn (c :: text) with
  | false =>
      rw [hreturn] at hlexeme
      rw [lexemeAt_of_doc hblank hlexeme]
      simp
  | true =>
      rw [hreturn] at hlexeme
      exact lexemeAt_of_spoilt (.inr rfl) hblank hlexeme

/-- Documentation is a comment that is one lexeme unless a return spoils it, or an attribute. -/
theorem docLayout_cases :
    (∃ comment : String, docLayout doc = concat [word comment, hard] ∧
        ∀ rest, lexemeAt (comment.toList ++ '\n' :: rest) =
          if hasStrayReturn doc then (.stray, (comment.toList ++ '\n' :: rest).length)
          else (.doc false, comment.toList.length)) ∨
      hasStrayReturn doc = false ∧ docLayout doc =
        concat [word ("#[doc = " ++ quoteLiteral doc ++ "]"), gap { blanks := 1 }] := by
  unfold docLayout hasStrayReturn
  by_cases hline : '\n' ∈ doc.toList
  · have htest : (!doc.toList.contains '\n') = false := by simpa using hline
    simp only [htest, Bool.false_eq_true, if_false]
    by_cases hdepth : commentDepth? 0 doc.toList = some 0
    · refine .inl ⟨_, if_pos hdepth, fun rest => ?_⟩
      rw [lexemeAt_block hdoc hline hdepth]
      simp [hdepth]
    · exact .inr ⟨by simp [hdepth], if_neg hdepth⟩
  · have htest : (!doc.toList.contains '\n') = true := by simpa using hline
    simp only [htest, if_true]
    exact .inl ⟨_, rfl, lexemeAt_line hdoc hline⟩

end Forms

/-! ## Layouts of documentation -/

section Layouts

variable {doc : String}

/-- In a block broken at all its breaks, a break is a line end. -/
theorem texts_gap_broken {place : Break} (hbefore : place.before = "") (hafter : place.after = "")
    (hnever : place.never = false) :
    (gap place).texts (.broken .consistent) = spelled "\n" := by
  simp [texts_gap, breakTexts, Break.side, hbefore, hafter, hnever]

theorem spoken_comment {comment : String}
    (hlexeme : ∀ rest, lexemeAt (comment.toList ++ '\n' :: rest) =
      (.doc false, comment.toList.length)) :
    Spoken .free (spelled comment * spelled "\n") .free Forest.doc := by
  rintro _ ⟨_, rfl, _, rfl, rfl⟩ rest -
  refine ⟨trivial, ?_⟩
  have hpos : 0 < comment.toList.length := by
    rw [List.length_pos_iff]
    intro hempty
    have hblank := hlexeme rest
    rw [hempty] at hblank
    cases hblank
  have hboth := (yields_doc (hlexeme rest) hpos).trans (yields_blank (c := '\n') (by decide) rest)
  rw [mul_one] at hboth
  simpa using hboth

theorem spoken_attribute (doc : String) :
    Spoken .clear (spelled ("#[doc = " ++ quoteLiteral doc ++ "]")) .clear Forest.doc := by
  have hblank (edge : Edge) : Spoken edge (spelled " ") edge 1 := .blank rfl (by decide) (by decide)
  have hname : Spoken .clear (spelled "doc") .firm (Forest.word "doc") :=
    .word Tree.docIdent.isLexeme
  have hmark : Spoken .firm (spelled "=") .clear (Forest.mark '=') := .mark rfl (by decide)
  have hcontent := (hname.mul (hblank .firm)).mul
    (hmark.mul ((hblank .clear).mul ((Spoken.quoteLiteral doc).mono (quoted_le_text doc))))
  have hform : "#[doc = " ++ quoteLiteral doc ++ "]" =
      "#" ++ ("[" ++ ("doc" ++ " " ++ ("=" ++ (" " ++ quoteLiteral doc))) ++ "]") := by
    simp [← String.toList_inj]
  rw [hform]
  simp only [spelled_append]
  rw [mul_one, one_mul, ← mul_assoc (Forest.word "doc")] at hcontent
  exact Spoken.hash.mul (.group .bracket rfl rfl hcontent)

/-- In the outermost block, documentation is read as an attribute. -/
theorem spoken_docLayout (hdoc : IsDocLine doc.toList) (hreturn : hasStrayReturn doc = false) :
    Spoken .free ((docLayout doc).texts (.broken .consistent)) .free Forest.doc := by
  rcases docLayout_cases hdoc with ⟨comment, hlayout, hlexeme⟩ | ⟨_, hlayout⟩
  · have hcomment : Spoken .free (spelled comment * spelled "\n") .free Forest.doc := by
      refine spoken_comment fun rest => ?_
      rw [hlexeme rest, hreturn, if_neg Bool.false_ne_true]
    have hspoken := (Spoken.spaces .free).mul hcomment
    rw [one_mul, ← mul_assoc] at hspoken
    rw [hlayout, texts_concat]
    simpa only [List.map_cons, List.map_nil, List.prod_cons, List.prod_nil, mul_one, hard,
      texts_gap_broken, texts_word] using hspoken
  · have hend : Spoken .clear (spelled "\n") .free 1 := .blank rfl (by decide) (by decide)
    have hspoken := ((Spoken.spaces .clear).mul (spoken_attribute doc)).mul hend
    rw [one_mul, mul_one] at hspoken
    rw [hlayout, texts_concat]
    simpa only [List.map_cons, List.map_nil, List.prod_cons, List.prod_nil, mul_one,
      texts_gap_broken, texts_word] using hspoken.weaken (Edge.free_le _) (Edge.refl _)

end Layouts

end EventDispatch.Dispatch
