import EventDispatch.Proofs.Documentation
import EventDispatch.Dispatch.Printer
import EventDispatch.Proofs.Forest

/-!
# Dispatch code is read as its trees

The layout of a generated implementation, however it is broken into lines, is read as
the trees of `Dispatch.forest` (`spoken_layout`).  There is one lemma for each part of
the layout.  The outermost block holds line ends that no line is wide enough to
pass, so that a line of documentation never swallows the code behind it.

Of the printer of arguments nothing is known but that what it prints is read as arguments
(`Printed`).
-/

namespace EventDispatch.Dispatch

open Layout Source
open Text.Escape (quoteLiteral)

/-! ## Names -/

/-- The names that all generated code has in common. -/
def codeWords : List String := [
  "impl", "for", "fn", "track", "self", "event", "let", "name", "params", "match", "log_event",
  "from", "new", "return", "allow", "non_snake_case", "_"]

theorem spoken_codeWord {name : String} (hname : name ∈ codeWords) :
    Spoken .clear (spelled name) .firm (Forest.word name) := by
  have hidents : ∀ name ∈ codeWords, lexemeAt name.toList = (.ident, name.toList.length) := by
    decide +kernel
  exact .word (hidents name hname)

theorem spoken_name {name : String} (hname : IsName name) :
    Spoken .clear (spelled name) .firm (Forest.word name) := by
  obtain ⟨ident, rfl, _⟩ := hname
  exact .word ident.isLexeme

/-- A name behind the path of a type. -/
theorem spoken_scoped (before : Edge) {name : String}
    (hname : Spoken .clear (spelled name) .firm (Forest.word name)) :
    Spoken before (spelled ("::" ++ name)) .firm (Forest.marks ':' ':' * Forest.word name) := by
  rw [spelled_append]
  exact Spoken.mul (.marks rfl (by decide) (by decide)) hname

/-- A blank between two parts of a text. -/
theorem spoken_blank (edge : Edge) : Spoken edge (spelled " ") edge 1 :=
  .blank rfl (by decide) (by decide)

theorem spoken_word_blank {name : String} (hname : name ∈ codeWords) :
    Spoken .clear (spelled (name ++ " ")) .clear (Forest.word name) := by
  have hblank : Spoken .firm (spelled " ") .clear 1 := .blank rfl (by decide) (by decide)
  have hboth := (spoken_codeWord hname).mul hblank
  rwa [mul_one, ← spelled_append] at hboth

theorem spoken_comma (edge : Edge) : Spoken edge (spelled ",") .clear (Forest.mark ',') :=
  .mark rfl (by decide)

theorem spoken_semicolon (edge : Edge) : Spoken edge (spelled ";") .clear (Forest.mark ';') :=
  .mark rfl (by decide)

/-! ## Breaks -/

section Breaks

variable (edge : Edge) (mode : Mode)

/-- A break that becomes blanks or a line end. -/
theorem spoken_soft (blanks : Nat) (offset : Int) :
    Spoken edge ((gap { blanks, offset }).texts mode) edge 1 :=
  spoken_gap rfl rfl rfl edge

/-- A break that only tells where a block fits. -/
theorem spoken_never : Spoken edge ((gap { never := true }).texts mode) edge 1 :=
  spoken_gap rfl rfl rfl edge

theorem spoken_hard (offset : Int) : Spoken edge ((hard offset).texts mode) edge 1 :=
  spoken_gap rfl rfl rfl edge

end Breaks

/-! ## Lists -/

section Lists

variable {mode : Mode} {items : List Layout} {elements : List (Language Tree)}
  {before middle after : Edge} {forest behind : Language Tree}

/-- The layouts are read as the elements of a list. -/
def Listed (items : List Layout) (elements : List (Language Tree)) : Prop :=
  List.Forall₂ (fun item element => ∀ mode, Spoken .clear (item.texts mode) .firm element)
    items elements

theorem listed_map {α : Type} {values : List α} {layout : α → Layout} {element : α → Language Tree}
    (hvalues : ∀ value ∈ values, ∀ mode,
      Spoken .clear ((layout value).texts mode) .firm (element value)) :
    Listed (values.map layout) (values.map element) :=
  List.forall₂_map_left_iff.mpr (List.forall₂_map_right_iff.mpr (List.forall₂_same.mpr hvalues))

theorem spoken_listItems (hitems : Listed items elements) (hnonempty : items ≠ []) (mode : Mode) :
    Spoken .clear ((listItems items).texts mode) .firm (Forest.commas elements) := by
  induction hitems with
  | nil => exact absurd rfl hnonempty
  | @cons item element items elements hitem hrest ih =>
      cases hrest with
      | nil => exact hitem mode
      | cons hnext hrest =>
          have hcomma := (spoken_word (spoken_comma .firm) mode).mul (spoken_soft .clear mode 1 0)
          have hall := ((hitem mode).mul hcomma).mul (ih (List.cons_ne_nil _ _))
          rw [mul_one, ← mul_assoc (item.texts mode)] at hall
          rw [listItems, texts_append, texts_append, texts_append]
          · exact hall
          · exact List.cons_ne_nil _ _

/-- A comma may stand behind the last element. -/
theorem spoken_listEnd : Spoken .firm (listEnd.texts mode) .firm (1 + Forest.mark ',') := by
  have hend : Spoken .clear (spelled "\n") .firm 1 := .blank rfl (by decide) (by decide)
  have hboth := ((Spoken.spaces .firm).mul (spoken_comma .firm)).mul hend
  rw [one_mul, mul_one] at hboth
  rw [listEnd, texts_gap, breakTexts]
  refine .add ?_ ?_
  · split
    · exact (Spoken.one .firm).mono le_self_add
    · exact .zero
  · split
    · exact .zero
    · simpa [Break.side] using hboth.mono le_add_self

/-- What stands between the two ends of a list. -/
def listBody (items : List Layout) : Layout :=
  consistent 4 [gap {}, listItems items, listEnd]

theorem spoken_listBody (hitems : Listed items elements) (hnonempty : items ≠ []) :
    Spoken .clear ((listBody items).texts mode) .firm (Forest.listed elements) := by
  refine spoken_block fun mode => ?_
  have hall := spoken_cons (spoken_soft .clear mode 0 0)
    (spoken_cons (spoken_listItems hitems hnonempty mode)
      (spoken_cons spoken_listEnd (spoken_nil .firm)))
  rw [one_mul, mul_one] at hall
  exact hall

theorem texts_list (opening closing : String) :
    (list opening items closing).texts mode =
      spaces * spelled opening * (listBody items).texts mode * (spaces * spelled closing) := by
  rw [list, texts_concat]
  simp only [List.map_cons, List.map_nil, List.prod_cons, List.prod_nil, mul_one, texts_word,
    mul_assoc]
  rfl

/-- A list in parentheses, with what stands in front of them and behind. -/
theorem spoken_parens {front back opening closing : String} (hopening : opening = front ++ "(")
    (hclosing : closing = ")" ++ back) (hfront : Spoken before (spelled front) middle forest)
    (hback : Spoken .clear (spelled back) after behind) (hitems : Listed items elements)
    (hnonempty : items ≠ []) :
    Spoken before ((list opening items closing).texts mode) after
      (forest * Forest.group .paren (Forest.listed elements) * behind) := by
  have hbody : Spoken .clear ((listBody items).texts mode) .firm (Forest.listed elements) :=
    spoken_listBody hitems hnonempty
  have hgroup : Spoken middle (spelled "(" * ((listBody items).texts mode * spaces) * spelled ")")
      .clear (Forest.group .paren (Forest.listed elements * 1)) :=
    .group .paren rfl rfl (hbody.mul (.spaces .firm))
  have hall := (Spoken.spaces before).mul ((hfront.mul hgroup).mul hback)
  rw [texts_list, hopening, hclosing, spelled_append, spelled_append]
  simpa only [mul_assoc, one_mul, mul_one] using hall

/-- Nothing stands in front of a list or behind it. -/
theorem spoken_empty (edge : Edge) : Spoken edge (spelled "") edge 1 :=
  .one edge

theorem spoken_tuple (hitems : Listed items elements) (hnonempty : items ≠ []) (mode : Mode) :
    Spoken .clear ((list "(" items ")").texts mode) .clear
      (Forest.group .paren (Forest.listed elements)) := by
  have hopening : "(" = "" ++ "(" := rfl
  have hclosing : ")" = ")" ++ "" := rfl
  have hall : Spoken .clear ((list "(" items ")").texts mode) .clear _ :=
    spoken_parens hopening hclosing (spoken_empty .clear) (spoken_empty .clear) hitems hnonempty
  rwa [one_mul, mul_one] at hall

/-- A list in angles. -/
theorem spoken_brackets (hitems : Listed items elements) (hnonempty : items ≠ []) (mode : Mode) :
    Spoken .firm ((list "<" items ">").texts mode) .clear
      (Forest.mark '<' * Forest.listed elements * Forest.mark '>') := by
  have hopening : Spoken .firm (spelled "<") .clear (Forest.mark '<') := .mark rfl (by decide)
  have hclosing : Spoken .firm (spelled ">") .clear (Forest.mark '>') := .mark rfl (by decide)
  have hbody : Spoken .clear ((listBody items).texts mode) .firm (Forest.listed elements) :=
    spoken_listBody hitems hnonempty
  have hall := (((Spoken.spaces .firm).mul hopening).mul hbody).mul
    ((Spoken.spaces .firm).mul hclosing)
  rw [texts_list]
  simpa only [mul_assoc, one_mul, mul_one] using hall

end Lists

/-! ## Paths -/

/-- The path is written with names, and each of its arguments is printed as a text that is read
as an argument. -/
structure Printed (printer : ArgumentPrinter) (argument : Language Tree) (reference : Reference) :
    Prop where
  code : reference.IsCode
  arguments : ∀ found ∈ reference.arguments, ∀ mode,
    Spoken .clear ((printer found).texts mode) .firm argument

section Paths

variable {printer : ArgumentPrinter} {argument : Language Tree} (inExpr : Bool)

theorem lifetimesFirst_perm (arguments : List (List Tree)) :
    (lifetimesFirst arguments).Perm arguments :=
  List.filter_append_perm isLifetime arguments

/-- Arguments in angles, in whatever order they are printed. -/
theorem spoken_anglesLayout {arguments : List (List Tree)}
    (harguments : ∀ found ∈ arguments, ∀ mode,
      Spoken .clear ((printer found).texts mode) .firm argument) (mode : Mode) :
    Spoken .firm ((anglesLayout printer inExpr arguments).texts mode) .firm
      (Forest.angles inExpr (arguments.map fun _ => argument)) := by
  cases arguments with
  | nil => exact .one .firm
  | cons first others =>
      have hitems : Listed ((lifetimesFirst (first :: others)).map printer)
          ((lifetimesFirst (first :: others)).map fun _ => argument) := by
        refine listed_map fun found hfound => harguments found ?_
        exact (lifetimesFirst_perm _).subset hfound
      have hsome : (lifetimesFirst (first :: others)).map printer ≠ [] := by
        rw [Ne, List.map_eq_nil_iff, ← List.length_eq_zero_iff, (lifetimesFirst_perm _).length_eq]
        exact Nat.succ_ne_zero _
      have hcolons : Spoken .firm ((if inExpr then word "::" else done).texts mode) .firm
          (if inExpr then Forest.marks ':' ':' else 1) := by
        cases inExpr with
        | false => exact .one .firm
        | true => exact (spoken_word (.marks rfl (by decide) (by decide)) mode).firm
      have hlist := spoken_brackets hitems hsome mode
      rw [List.map_const', (lifetimesFirst_perm _).length_eq, ← List.map_const'] at hlist
      rw [anglesLayout, List.isEmpty_cons, if_neg Bool.false_ne_true, texts_append]
      exact hcolons.mul hlist.firm

theorem spoken_segmentLayout {segment : Segment} (hcode : segment.IsCode)
    (harguments : ∀ found ∈ (segment.angles.map Angles.arguments).getD [], ∀ mode,
      Spoken .clear ((printer found).texts mode) .firm argument) (mode : Mode) :
    Spoken .clear ((segmentLayout printer inExpr segment).texts mode) .firm
      (Forest.word segment.name * Forest.angles inExpr
        (((segment.angles.map Angles.arguments).getD []).map fun _ => argument)) := by
  obtain ⟨ident, hident, _⟩ := hcode
  rw [segmentLayout, texts_append, ← hident]
  exact (spoken_word (.word ident.isLexeme) mode).mul (spoken_anglesLayout inExpr harguments mode)

/-- A path is read as its names and arguments. -/
theorem spoken_pathLayout {reference : Reference} (hpath : Printed printer argument reference)
    (mode : Mode) :
    Spoken .clear ((pathLayout printer inExpr reference).texts mode) .firm
      (Forest.path inExpr (reference.trail argument)) := by
  obtain ⟨rooted, segments⟩ := reference
  obtain ⟨⟨hsome, hsegments⟩, harguments⟩ := hpath
  have hcolons : Spoken .clear ((if rooted then word "::" else done).texts mode) .clear
      (if rooted then Forest.marks ':' ':' else 1) := by
    cases rooted with
    | false => exact .one .clear
    | true => exact spoken_word (.marks rfl (by decide) (by decide)) mode
  rw [pathLayout, texts_append]
  refine hcolons.mul ?_
  simp only [Reference.arguments] at harguments hsome hsegments
  show Spoken .clear _ .firm (Forest.parts inExpr (segments.map _))
  induction segments with
  | nil => exact absurd rfl hsome
  | cons segment segments ih =>
      obtain ⟨hsegment, hsegments⟩ := List.forall_mem_cons.mp hsegments
      rw [List.flatMap_cons, List.forall_mem_append] at harguments
      have hfirst := spoken_segmentLayout inExpr hsegment harguments.1 mode
      cases segments with
      | nil => exact hfirst
      | cons next segments =>
          have hmarks : Spoken .firm ((word "::").texts mode) .clear (Forest.marks ':' ':') :=
            spoken_word (.marks rfl (by decide) (by decide)) mode
          rw [segmentsLayout, texts_append, texts_append]
          · exact (hfirst.mul hmarks).mul (ih harguments.2 (List.cons_ne_nil _ _) hsegments)
          · exact List.cons_ne_nil _ _

theorem childForest_eq {type : Reference} (hcode : type.IsCode) (name : String) :
    childForest argument type name =
      Forest.path true (type.trail argument) * (Forest.marks ':' ':' * Forest.word name) := by
  rw [childForest, Trail.path_child (by simpa [Reference.trail] using hcode.1), mul_assoc]

/-- The conversion of something into a value of a type. -/
theorem spoken_from {type : Reference} (htype : Printed printer argument type)
    {items : List Layout} {elements : List (Language Tree)} (hitems : Listed items elements)
    (hnonempty : items ≠ []) (mode : Mode) :
    Spoken .clear ((callLayout printer type "::from(" items ")").texts mode) .clear
      (childForest argument type "from" * Forest.group .paren (Forest.listed elements)) := by
  have hopening : "::from(" = "::" ++ "from" ++ "(" := rfl
  have hclosing : ")" = ")" ++ "" := rfl
  have hfront := spoken_scoped .firm (spoken_codeWord (by decide : "from" ∈ codeWords))
  have hlist : Spoken .firm ((list "::from(" items ")").texts mode) .clear _ :=
    spoken_parens hopening hclosing hfront (spoken_empty .clear) hitems hnonempty
  rw [callLayout, texts_append, childForest_eq htype.code]
  simpa only [mul_assoc, mul_one] using (spoken_pathLayout true htype mode).mul hlist

end Paths

/-! ## Arms -/

/-- The paths and names of an implementation can be printed. -/
structure PrintedAll (printer : ArgumentPrinter) (argument : Language Tree) (dispatch : Dispatch) :
    Prop where
  paths : ∀ reference ∈ dispatch.references, Printed printer argument reference
  variants : ∀ arm ∈ dispatch.arms, IsName arm.variant
  fields : ∀ arm ∈ dispatch.arms, ∀ name ∈ arm.bindings.map Binding.field, IsName name

section Parts

variable {printer : ArgumentPrinter} {argument : Language Tree} {dispatch : Dispatch} {arm : Arm}
  {mode : Mode}

theorem spoken_quote (text : String) (mode : Mode) :
    Spoken .clear ((word (quoteLiteral text)).texts mode) .firm (Forest.quoted text) :=
  spoken_word (.quoteLiteral text) mode

theorem spoken_bindingLayout (hdispatch : PrintedAll printer argument dispatch)
    {binding : Binding} (hfield : IsName binding.field) (mode : Mode) :
    Spoken .clear ((dispatch.bindingLayout printer binding).texts mode) .clear
      (dispatch.pairForest argument binding) := by
  have hvalue := hdispatch.paths dispatch.paramValue (by simp [references])
  have hname : Listed [word binding.field] [Forest.word binding.field] :=
    .cons (spoken_word (spoken_name hfield)) .nil
  have hcall (mode : Mode) := (spoken_from hvalue hname (List.cons_ne_nil _ _) mode).firm
  exact spoken_tuple (.cons (spoken_quote _) (.cons hcall .nil)) (List.cons_ne_nil _ _) mode

theorem spoken_paramsLayout (hdispatch : PrintedAll printer argument dispatch)
    (harm : arm ∈ dispatch.arms) (mode : Mode) :
    Spoken .clear ((dispatch.paramsLayout printer arm).texts mode) .clear
      (dispatch.paramsForest argument arm) := by
  have hparams := hdispatch.paths dispatch.params (by simp [references])
  have hpath := spoken_pathLayout true hparams mode
  unfold paramsLayout paramsForest
  split
  · have hname := spoken_scoped .firm (spoken_codeWord (by decide : "new" ∈ codeWords))
    have hgroup : Spoken .firm (spelled ("(" ++ "" ++ ")")) .clear (Forest.group .paren 1) := by
      rw [spelled_append, spelled_append]
      exact .group .paren rfl rfl (spoken_empty .clear)
    have hcall := hname.mul hgroup
    rw [← spelled_append] at hcall
    have hall := hpath.mul (spoken_word hcall mode)
    rw [← texts_append, ← mul_assoc, ← childForest_eq hparams.code] at hall
    exact hall
  · rename_i hsome
    have hitems : Listed (arm.bindings.map (dispatch.bindingLayout printer))
        (arm.bindings.map (dispatch.pairForest argument)) :=
      listed_map fun binding hbinding mode => (spoken_bindingLayout hdispatch
        (hdispatch.fields arm harm _ (List.mem_map_of_mem hbinding)) mode).firm
    have hnonempty : arm.bindings.map (dispatch.bindingLayout printer) ≠ [] := by simpa using hsome
    have hname := spoken_scoped .firm (spoken_codeWord (by decide : "from" ∈ codeWords))
    have hbody : Spoken .clear
        ((listBody (arm.bindings.map (dispatch.bindingLayout printer))).texts mode) .firm _ :=
      spoken_listBody hitems hnonempty
    have hbrackets : Spoken .clear (spelled "[" *
        ((listBody (arm.bindings.map (dispatch.bindingLayout printer))).texts mode * spaces) *
        spelled "]") .clear _ := .group .bracket rfl rfl (hbody.mul (.spaces .firm))
    have hparens : Spoken .firm (spelled "(" * (spelled "[" *
        ((listBody (arm.bindings.map (dispatch.bindingLayout printer))).texts mode * spaces) *
        spelled "]") * spelled ")") .clear _ := .group .paren rfl rfl hbrackets
    have hall := hpath.mul ((Spoken.spaces .firm).mul (hname.mul hparens))
    have hopening : "::from([" = "::" ++ "from" ++ "(" ++ "[" := rfl
    have hclosing : "])" = "]" ++ ")" := rfl
    rw [callLayout, texts_append, texts_list, hopening, hclosing, spelled_append _ "[",
      spelled_append _ "(", spelled_append _ ")", childForest_eq hparams.code]
    simpa only [mul_assoc, one_mul, mul_one] using hall

theorem spoken_resultLayout (hdispatch : PrintedAll printer argument dispatch)
    (harm : arm ∈ dispatch.arms) (mode : Mode) :
    Spoken .clear ((dispatch.resultLayout printer arm).texts mode) .clear
      (dispatch.resultForest argument arm) := by
  have hlast (mode : Mode) := (spoken_paramsLayout hdispatch harm mode).firm
  exact spoken_tuple (.cons (spoken_quote _) (.cons hlast .nil)) (List.cons_ne_nil _ _) mode

theorem spoken_fields {bindings : List Binding}
    (hfields : ∀ name ∈ bindings.map Binding.field, IsName name) (mode : Mode) :
    Spoken .clear ((concat (bindings.map fun binding =>
        word (binding.field ++ ",") ++ gap { blanks := 1 })).texts mode) .clear
      ((bindings.map Binding.field).map fun name => Forest.word name * Forest.mark ',').prod := by
  induction bindings with
  | nil => exact .one .clear
  | cons binding bindings ih =>
      obtain ⟨hfield, hfields⟩ := List.forall_mem_cons.mp hfields
      have hname := (spoken_name hfield).mul (spoken_comma .firm)
      rw [← spelled_append] at hname
      have hfirst := (spoken_word hname mode).mul (spoken_soft .clear mode 1 0)
      rw [mul_one, ← texts_append] at hfirst
      exact spoken_cons hfirst (ih hfields)

theorem spoken_patternLayout (hdispatch : PrintedAll printer argument dispatch)
    (harm : arm ∈ dispatch.arms) (mode : Mode) :
    Spoken .clear ((dispatch.patternLayout printer arm).texts mode) .clear
      (dispatch.patternForest argument arm) := by
  refine spoken_block fun mode => ?_
  have hset := hdispatch.paths dispatch.set (by simp [references])
  have hname := spoken_scoped .firm (spoken_name (hdispatch.variants arm harm))
  have hdots : Spoken .clear ((word "..").texts mode) .clear (Forest.marks '.' '.') :=
    spoken_word (.marks rfl (by decide) (by decide)) mode
  have hfields := spoken_fields (hdispatch.fields arm harm) mode
  have hcontent := (((spoken_soft .clear mode 1 0).mul hfields).mul hdots).mul
    ((spoken_soft .clear mode 1 (-4)).mul (.spaces .clear))
  have hbraces : Spoken .firm (spelled "\x7b" * _ * spelled "\x7d") .clear _ :=
    .group .brace rfl rfl hcontent
  have hall := (spoken_pathLayout true hset mode).mul
    ((Spoken.spaces .firm).mul ((hname.mul (spoken_blank .firm)).mul hbraces))
  have hform : "::" ++ arm.variant ++ " \x7b" = "::" ++ arm.variant ++ " " ++ "\x7b" := by
    simp [← String.toList_inj]
  rw [hform, patternForest, Forest.fields, childForest_eq hset.code, texts_concat, List.map_cons,
    List.map_cons, texts_word, spelled_append _ "\x7b", spelled_append _ " "]
  simpa only [List.map_cons, List.map_nil, List.prod_cons, List.prod_nil, texts_word, mul_assoc,
    one_mul, mul_one] using hall

/-- The result of an arm with a comma behind it, or in braces on lines of its own. -/
theorem spoken_armResult {result : Layout} {ending : String} {edge : Edge}
    {value behind : Language Tree} (hresult : ∀ mode, Spoken .clear (result.texts mode) edge value)
    (hending : Spoken edge (Break.side ending) .clear behind) (mode : Mode) :
    Spoken .clear ((consistent 4 [
        gap { before := "\x7b" }, result,
        gap { before := ending, after := "\x7d", flat := ",", offset := -4 }]).texts mode) .clear
      (value * Forest.mark ',' + Forest.group .brace (value * behind)) := by
  have hend : Spoken .clear (spelled "\n") .clear 1 := .blank rfl (by decide) (by decide)
  -- On one line the comma closes the arm; on several the braces do, and there is no comma.
  have hflat := (hresult .flat).mul (spoken_comma edge)
  have hcontent := ((hend.mul (hresult (.broken .consistent))).mul hending).mul
    (hend.mul (.spaces .clear))
  have hbraces : Spoken .clear (spelled "\x7b" * _ * spelled "\x7d") .clear _ :=
    .group .brace rfl rfl hcontent
  have hbroken := (Spoken.spaces .clear).mul hbraces
  rw [consistent, texts_block, texts_concat, texts_concat]
  refine .add ?_ ?_
  · refine (Spoken.mono ?_ le_self_add)
    simpa [breakTexts, texts_gap, spelled_empty] using hflat
  · refine (Spoken.mono ?_ le_add_self)
    simpa [breakTexts, texts_gap, Break.side, mul_assoc] using hbroken

theorem spoken_armLayout {pattern result : Layout} {ending : String} {first second : Edge}
    {front value behind : Language Tree}
    (hpattern : ∀ mode, Spoken .clear (pattern.texts mode) first front)
    (hresult : ∀ mode, Spoken .clear (result.texts mode) second value)
    (hending : Spoken second (Break.side ending) .clear behind) (mode : Mode) :
    Spoken .clear ((armLayout pattern result ending).texts mode) .clear
      (armForest front value behind) := by
  refine spoken_block fun mode => ?_
  have harrow : Spoken first (spelled (" " ++ "=>" ++ " ")) .clear (Forest.marks '=' '>') := by
    have hmarks : Spoken first (spelled "=>") .clear (Forest.marks '=' '>') :=
      .marks rfl (by decide) (by decide)
    have hall := ((spoken_blank first).mul hmarks).mul (spoken_blank .clear)
    rw [spelled_append, spelled_append]
    simpa only [one_mul, mul_one] using hall
  have hall := spoken_cons (hpattern mode) (spoken_cons (spoken_word harrow mode)
    (spoken_cons (spoken_never .clear mode) (spoken_cons (spoken_armResult hresult hending mode)
      (spoken_nil .clear))))
  rw [one_mul, mul_one, ← mul_assoc] at hall
  exact hall

end Parts

/-! ## The function -/

/-- Arms on lines of their own, or nothing between the braces. -/
theorem spoken_arms {layouts : List Layout} {forests : List (Language Tree)}
    (hlayouts : List.Forall₂
      (fun layout forest => ∀ mode, Spoken .clear (layout.texts mode) .clear forest) layouts
      forests)
    (mode : Mode) :
    Spoken .clear ((consistent 4 (if layouts.isEmpty then [] else
        layouts.map (fun layout => hard ++ layout) ++ [hard (-4)])).texts mode) .clear
      forests.prod := by
  refine spoken_block fun mode => ?_
  -- The break behind the last arm is only there if there is an arm.
  have hlines : Spoken .clear ((concat (layouts.map fun layout => hard ++ layout)).texts mode)
      .clear forests.prod := by
    induction hlayouts with
    | nil => exact .one .clear
    | cons hfirst _ ih =>
        have hline := (spoken_hard .clear mode 0).mul (hfirst mode)
        rw [one_mul, ← texts_append] at hline
        exact spoken_cons hline ih
  cases hlayouts with
  | nil => exact .one .clear
  | cons _ _ =>
      have hall := hlines.mul (spoken_hard .clear mode (-4))
      rw [mul_one] at hall
      rw [List.isEmpty_cons, if_neg Bool.false_ne_true, texts_concat, List.map_append,
        List.prod_append, List.map_singleton, List.prod_singleton, ← texts_concat]
      exact hall

section Function

variable {printer : ArgumentPrinter} {argument : Language Tree} {dispatch : Dispatch}
  (hdispatch : PrintedAll printer argument dispatch)

include hdispatch

theorem spoken_armLayouts :
    List.Forall₂ (fun layout forest => ∀ mode, Spoken .clear (layout.texts mode) .clear forest)
      (dispatch.armLayouts printer) (dispatch.armForests argument) := by
  -- The arms of the variants, and behind them the arm for the rest if the set is not complete.
  refine List.rel_append ?_ ?_
  · refine List.forall₂_map_left_iff.mpr (List.forall₂_map_right_iff.mpr (List.forall₂_same.mpr ?_))
    intro arm harm mode
    have hnone : Spoken .clear (Break.side "") .clear 1 := .one .clear
    exact spoken_armLayout (spoken_patternLayout hdispatch harm)
      (spoken_resultLayout hdispatch harm) hnone mode
  · split
    · have hmark : Spoken .firm (Break.side ";") .clear (Forest.mark ';') := by
        have hall : Spoken .firm (spaces * spelled ";") .clear _ :=
          (Spoken.spaces .firm).mul (spoken_semicolon .firm)
        rwa [one_mul] at hall
      refine .cons (fun mode => ?_) .nil
      exact spoken_armLayout (spoken_word (spoken_codeWord (by decide)))
        (spoken_word (spoken_codeWord (by decide))) hmark mode
    · exact .nil

theorem spoken_matchLayout (mode : Mode) :
    Spoken .clear ((dispatch.matchLayout printer).texts mode) .clear
      (dispatch.matchForest argument) := by
  refine spoken_block fun mode => ?_
  have hwords := (spoken_word_blank (by decide : "match" ∈ codeWords)).mul
    (spoken_word_blank (by decide : "event" ∈ codeWords))
  have harms := spoken_arms (spoken_armLayouts hdispatch) mode
  have hbraces : Spoken .clear (spelled "\x7b" * _ * spelled "\x7d") .clear _ :=
    .group .brace rfl rfl ((spoken_never .clear mode).mul (harms.mul (.spaces .clear)))
  have hall := (Spoken.spaces .clear).mul (hwords.mul hbraces)
  have hform : "match event \x7b" = "match" ++ " " ++ ("event" ++ " ") ++ "\x7b" := rfl
  rw [hform, matchForest, texts_concat, List.map_cons, texts_word, spelled_append _ "\x7b",
    spelled_append _ ("event" ++ " ")]
  simpa only [List.map_cons, List.map_nil, List.prod_cons, List.prod_nil, texts_word, mul_assoc,
    one_mul, mul_one] using hall

theorem spoken_bindLayout (mode : Mode) :
    Spoken .clear ((dispatch.bindLayout printer).texts mode) .clear
      (Forest.word "let" * Forest.group .paren (Forest.listed [Forest.word "name",
        Forest.word "params"]) * Forest.mark '=' * dispatch.matchForest argument) := by
  refine spoken_block fun mode => ?_
  have hopening : "let (" = "let" ++ " " ++ "(" := rfl
  have hclosing : ") = " = ")" ++ (" " ++ "=" ++ " ") := rfl
  -- The blanks keep the mark apart from the texts on both sides.
  have hequals : Spoken .clear (spelled (" " ++ "=" ++ " ")) .clear (Forest.mark '=') := by
    have hmark : Spoken .clear (spelled "=") .clear (Forest.mark '=') := .mark rfl (by decide)
    have hall := ((spoken_blank .clear).mul hmark).mul (spoken_blank .clear)
    rw [spelled_append, spelled_append]
    rwa [one_mul, mul_one] at hall
  have hnames : Listed [word "name", word "params"] [Forest.word "name", Forest.word "params"] :=
    .cons (spoken_word (spoken_codeWord (by decide)))
      (.cons (spoken_word (spoken_codeWord (by decide))) .nil)
  have hlet := spoken_word_blank (by decide : "let" ∈ codeWords)
  have hlist : Spoken .clear ((list "let (" [word "name", word "params"] ") = ").texts mode)
      .clear _ :=
    spoken_parens hopening hclosing hlet hequals hnames (List.cons_ne_nil _ _)
  have hall := spoken_cons hlist (spoken_cons (spoken_never .clear mode)
    (spoken_cons (spoken_matchLayout hdispatch mode) (spoken_nil .clear)))
  rwa [one_mul, mul_one] at hall

theorem spoken_set (inExpr : Bool) (mode : Mode) :
    Spoken .clear ((pathLayout printer inExpr dispatch.set).texts mode) .firm
      (Forest.path inExpr (dispatch.set.trail argument)) :=
  spoken_pathLayout inExpr (hdispatch.paths dispatch.set (by simp [references])) mode

/-- The parameters of the function. -/
theorem spoken_parameters (mode : Mode) :
    Spoken .clear ((consistent 0 [
        gap {}, word "&self,", gap { blanks := 1 }, word "event: &",
        pathLayout printer false dispatch.set, listEnd]).texts mode) .firm
      (Forest.listed [Forest.mark '&' * Forest.word "self",
        Forest.word "event" * Forest.mark ':' *
          (Forest.mark '&' * dispatch.setForest argument)]) := by
  refine spoken_block fun mode => ?_
  have hborrow : Spoken .clear (spelled "&") .clear (Forest.mark '&') := .mark rfl (by decide)
  have hcolon : Spoken .firm (spelled ":") .clear (Forest.mark ':') := .mark rfl (by decide)
  have hself : Spoken .clear (spelled "&self,") .clear
      (Forest.mark '&' * Forest.word "self" * Forest.mark ',') := by
    rw [show "&self," = "&" ++ "self" ++ "," from rfl, spelled_append, spelled_append]
    exact (hborrow.mul (spoken_codeWord (by decide))).mul (spoken_comma .firm)
  have hevent : Spoken .clear (spelled "event: &") .clear
      (Forest.word "event" * Forest.mark ':' * Forest.mark '&') := by
    have hgap := (spoken_blank .clear).mul hborrow
    rw [one_mul, ← spelled_append] at hgap
    rw [show "event: &" = "event" ++ ":" ++ (" " ++ "&") from rfl, spelled_append, spelled_append]
    exact ((spoken_codeWord (by decide)).mul hcolon).mul hgap
  have hall := spoken_cons (spoken_soft .clear mode 0 0) (spoken_cons (spoken_word hself mode)
    (spoken_cons (spoken_soft .clear mode 1 0) (spoken_cons (spoken_word hevent mode)
      (spoken_cons (spoken_set hdispatch false mode) (spoken_cons spoken_listEnd
        (spoken_nil .firm))))))
  simpa only [setForest, Forest.listed, Forest.commas, mul_assoc, one_mul, mul_one] using hall

omit hdispatch in
theorem spoken_callLayout (mode : Mode) :
    Spoken .clear ((inconsistent 0 [word "self.log_event(name, params);"]).texts mode) .clear
      callForest := by
  refine spoken_block fun mode => ?_
  have hdot : Spoken .firm (spelled ".") .clear (Forest.mark '.') := .mark rfl (by decide)
  have hname (name : String) (hname : name ∈ codeWords) := spoken_codeWord hname
  have harguments := ((hname "name" (by decide)).mul (spoken_comma .firm)).mul
    ((spoken_blank .clear).mul (hname "params" (by decide)))
  have hparens : Spoken .firm (spelled "(" * _ * spelled ")") .clear _ :=
    .group .paren rfl rfl harguments
  have hcall := ((((hname "self" (by decide)).mul hdot).mul (hname "log_event" (by decide))).mul
    hparens).mul (spoken_semicolon .clear)
  have htext : spelled "self.log_event(name, params);" = spelled "self" * spelled "." *
      spelled "log_event" * (spelled "(" * (spelled "name" * spelled "," *
        (spelled " " * spelled "params")) * spelled ")") * spelled ";" := by
    simp only [← spelled_append]
    rfl
  have hall := spoken_cons (spoken_word (htext ▸ hcall) mode) (spoken_nil .clear)
  simpa only [callForest, mul_assoc, one_mul, mul_one] using hall

/-- The function with the brace that closes it. -/
theorem spoken_functionLayout (mode : Mode) :
    Spoken .clear ((dispatch.functionLayout printer ++ word "\x7d").texts mode) .clear
      (dispatch.functionForest argument) := by
  refine spoken_block_append fun inner => ?_
  have hfn := (spoken_word_blank (by decide : "fn" ∈ codeWords)).mul
    (spoken_codeWord (by decide : "track" ∈ codeWords))
  have hparens : Spoken .firm (spelled "(" * _ * spelled ")") .clear _ :=
    .group .paren rfl rfl ((spoken_never .clear inner).mul
      ((spoken_parameters hdispatch inner).mul (.spaces .firm)))
  have hend := (spoken_word (spoken_semicolon .clear) inner).mul (spoken_hard .clear inner 0)
  have hcall := (spoken_callLayout inner).mul
    ((spoken_hard .clear inner (-4)).mul (.spaces .clear))
  have hstatements :=
    (((spoken_hard .clear inner 0).mul (spoken_bindLayout hdispatch inner)).mul hend).mul hcall
  have hbraces : Spoken .clear (spelled "\x7b" * _ * spelled "\x7d") .clear _ :=
    .group .brace rfl rfl hstatements
  have hall := (Spoken.spaces .clear).mul
    ((hfn.mul hparens).mul ((spoken_blank .clear).mul hbraces))
  -- The words of the layout are cut where a group opens or closes.
  have hopening : "fn track(" = "fn" ++ " " ++ "track" ++ "(" := rfl
  have hclosing : ") \x7b" = ")" ++ " " ++ "\x7b" := rfl
  rw [functionForest, signatureForest, bindForest, texts_concat]
  simp only [List.map_cons, List.map_nil, List.prod_cons, List.prod_nil, texts_word]
  rw [hopening, hclosing, spelled_append _ "(", spelled_append _ "track", spelled_append _ "\x7b",
    spelled_append ")"]
  simpa only [texts_word, mul_assoc, one_mul, mul_one] using hall

end Function

/-! ## The implementation -/

section Implementation

variable {printer : ArgumentPrinter} {argument : Language Tree} {dispatch : Dispatch}

theorem spoken_headLayout (hdispatch : PrintedAll printer argument dispatch) (mode : Mode) :
    Spoken .clear ((dispatch.headLayout printer).texts mode) .firm
      (dispatch.headForest argument) := by
  refine spoken_block fun mode => ?_
  have htrackEvent := hdispatch.paths dispatch.trackEvent (by simp [references])
  have htracker := hdispatch.paths dispatch.tracker (by simp [references])
  have hitems : Listed [pathLayout printer false dispatch.set]
      [dispatch.setForest argument] := .cons (spoken_set hdispatch false) .nil
  have htrait := (spoken_pathLayout false htrackEvent mode).mul
    (spoken_brackets hitems (List.cons_ne_nil _ _) mode)
  have himpl := spoken_word (spoken_word_blank (by decide : "impl" ∈ codeWords)) mode
  have hfor := (spoken_word (spoken_word_blank (by decide : "for" ∈ codeWords)) mode).mul
    (spoken_pathLayout false htracker mode)
  have hall := (himpl.mul htrait).mul ((spoken_soft .clear mode 1 0).mul hfor)
  rw [headForest, texts_concat, show "impl " = "impl" ++ " " from rfl,
    show "for " = "for" ++ " " from rfl]
  simpa only [List.map_cons, List.map_nil, List.prod_cons, List.prod_nil, mul_assoc, one_mul,
    mul_one] using hall

theorem spoken_allow (dispatch : Dispatch) (mode : Mode) :
    Spoken .clear ((if dispatch.allowsCapitals then
        word "#[allow(non_snake_case)]" ++ gap { blanks := 1 } else done).texts mode) .clear
      dispatch.allowForest := by
  unfold allowForest
  split
  · have hparens : Spoken .firm (spelled "(" * spelled "non_snake_case" * spelled ")") .clear _ :=
      .group .paren rfl rfl (spoken_codeWord (by decide))
    have hbrackets : Spoken .clear (spelled "[" * _ * spelled "]") .clear _ :=
      .group .bracket rfl rfl ((spoken_codeWord (by decide : "allow" ∈ codeWords)).mul hparens)
    have hattribute := Spoken.hash.mul hbrackets
    have htext : spelled "#[allow(non_snake_case)]" = spelled "#" * (spelled "[" *
        (spelled "allow" * (spelled "(" * spelled "non_snake_case" * spelled ")")) *
        spelled "]") := by
      simp only [← spelled_append]
      rfl
    have hall := (spoken_word (htext ▸ hattribute) mode).mul (spoken_soft .clear mode 1 0)
    rw [mul_one] at hall
    rw [texts_append]
    exact hall
  · exact .one .clear

/-- The implementation with the brace that closes it. -/
theorem spoken_implLayout (hdispatch : PrintedAll printer argument dispatch) (mode : Mode) :
    Spoken .clear ((consistent 4 [
        dispatch.headLayout printer, word " \x7b", hard,
        if dispatch.allowsCapitals then word "#[allow(non_snake_case)]" ++ gap { blanks := 1 }
        else done,
        dispatch.functionLayout printer, word "\x7d", hard (-4)] ++ word "\x7d").texts mode) .clear
      (dispatch.implForest argument) := by
  refine spoken_block_append fun inner => ?_
  have hcontent := (((spoken_hard .clear inner 0).mul (spoken_allow dispatch inner)).mul
    (spoken_functionLayout hdispatch inner)).mul
      ((spoken_hard .clear inner (-4)).mul (.spaces .clear))
  have hbraces : Spoken .firm (spelled "\x7b" * _ * spelled "\x7d") .clear _ :=
    .group .brace rfl rfl hcontent
  have hall := (spoken_headLayout hdispatch inner).mul
    ((Spoken.spaces .firm).mul ((spoken_blank .firm).mul hbraces))
  rw [implForest, texts_concat]
  simp only [List.map_cons, List.map_nil, List.prod_cons, List.prod_nil, texts_word]
  rw [show " \x7b" = " " ++ "\x7b" from rfl, spelled_append " "]
  simpa only [texts_append, texts_word, mul_assoc, one_mul, mul_one] using hall

/-- The parts of the outermost block. -/
def parts (printer : ArgumentPrinter) (dispatch : Dispatch) : List Layout := [
  docLayout dispatch.summary, docLayout "",
  docLayout " This is a generated function. Do not edit.",
  consistent 4 [
    dispatch.headLayout printer, word " \x7b", hard,
    if dispatch.allowsCapitals then word "#[allow(non_snake_case)]" ++ gap { blanks := 1 }
    else done,
    dispatch.functionLayout printer, word "\x7d", hard (-4)],
  word "\x7d", hard]

/-- The line ends within the outermost block break it. -/
theorem render_layout_mem (printer : ArgumentPrinter) (dispatch : Dispatch) :
    (dispatch.layout printer).render.toList ∈
      (concat (dispatch.parts printer)).texts (.broken .consistent) := by
  refine render_mem_texts_of_wide ?_
  change margin < ((docLayout dispatch.summary ++ (docLayout "" ++ _)).width : Int)
  have hend : (docLayout "").width = 65538 := by decide +kernel
  rw [width_append, width_append, hend]
  simp only [margin]
  omega

/-- The layout of an implementation is read as its trees, if no documentation has a stray
return in it. -/
theorem spoken_layout (hdispatch : PrintedAll printer argument dispatch)
    (hdoc : IsDocLine dispatch.summary.toList)
    (hreturn : hasStrayReturn dispatch.summary = false) :
    Spoken .free (spelled (dispatch.layout printer).render) .clear (dispatch.forest argument) := by
  have hrender : spelled (dispatch.layout printer).render ≤
      (concat (dispatch.parts printer)).texts (.broken .consistent) :=
    Set.singleton_subset_iff.mpr (render_layout_mem printer dispatch)
  refine Spoken.subset ?_ hrender
  have hempty : Spoken .free ((docLayout "").texts (.broken .consistent)) .free Forest.doc :=
    spoken_docLayout (.inl rfl) rfl
  have hnotice : Spoken .free ((docLayout " This is a generated function. Do not edit.").texts
      (.broken .consistent)) .free Forest.doc := spoken_docLayout (.inr ⟨rfl, rfl⟩) rfl
  -- A comment ends with its line, so that behind it the code may begin with anything.
  have himpl := (spoken_implLayout hdispatch (.broken .consistent)).weaken (Edge.free_le _)
    (Edge.refl _)
  have hall := (((spoken_docLayout hdoc hreturn).mul hempty).mul hnotice).mul
    (himpl.mul (spoken_hard .clear (.broken .consistent) 0))
  rw [parts, texts_concat, forest]
  simpa only [List.map_cons, List.map_nil, List.prod_cons, List.prod_nil, texts_append, mul_assoc,
    one_mul, mul_one] using hall

end Implementation

end EventDispatch.Dispatch
