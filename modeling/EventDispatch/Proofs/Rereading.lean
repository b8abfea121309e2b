import EventDispatch.Preparation
import EventDispatch.Proofs.Implementation
import EventDispatch.Proofs.Printer

/-!
# Generated files read back

A generated file is the text of one implementation, and the grammar takes it: added to a
generator it declares nothing.  There is one exception.  The paths of the set and of the
tracker are written into the documentation as they stand, and a carriage return in them
that no line feed follows spoils the comment (`addSource_artifact`).

The arguments in the angles of paths are printed by a printer that is a parameter here.  It is
asked to print each of them as a text that is read as an argument (`Prints`), of which nothing
is left where no path has arguments (`prints_of_plain`).
-/

namespace EventDispatch

open Source Dispatch

/-! ## The front of a file -/

/-- The text opens neither with a byte order mark nor with the name of an interpreter. -/
def Source.IsPlain (text : List Char) : Prop :=
  text.head? ≠ some '\ufeff' ∧ startsWith "#!" text = false

/-- Documentation opens with the marks of a comment or of an attribute. -/
theorem docLayout_eq (doc : String) :
    ∃ opening tail, docLayout doc = .concat [.word opening, tail] ∧
      ∃ rest, opening.toList = '/' :: rest ∨ opening.toList = '#' :: '[' :: rest := by
  unfold docLayout
  split
  · exact ⟨_, _, rfl, '/' :: '/' :: doc.toList, .inl (by simp)⟩
  · split
    · exact ⟨_, _, rfl, '*' :: '*' :: (trimLineEnds 0 doc.toList ++ ['*', '/']), .inl (by simp)⟩
    · exact ⟨_, _, rfl, ("doc = " ++ Text.Escape.quoteLiteral doc ++ "]").toList, .inr (by simp)⟩

/-- The documentation at the front of a generated file opens no other line. -/
theorem isPlain_of_docLayout {doc : String} {text : List Char} {others : Language Char}
    (htext : text ∈ (docLayout doc).texts (.broken .consistent) * others) : IsPlain text := by
  obtain ⟨opening, tail, hlayout, rest, hopening⟩ := docLayout_eq doc
  rw [hlayout, Layout.texts_concat] at htext
  simp only [List.map_cons, List.map_nil, List.prod_cons, List.prod_nil, Layout.texts_word, mul_one]
    at htext
  obtain ⟨_, ⟨_, ⟨blanks, hblanks, _, rfl, rfl⟩, line, _, rfl⟩, others, _, rfl⟩ := htext
  simp only [List.append_assoc]
  cases blanks with
  | nil =>
      rcases hopening with hopening | hopening
      · rw [hopening]
        exact ⟨by simp, rfl⟩
      · rw [hopening]
        exact ⟨by simp, rfl⟩
  | cons c blanks =>
      obtain rfl : c = ' ' := hblanks c List.mem_cons_self
      exact ⟨by simp, rfl⟩

/-- The line that marks a generated file is read over, and the empty line behind it. -/
theorem build_header (body : List Char) :
    Tree.build 1 [] [] (lexemes (header.toList ++ '\n' :: '\n' :: body)) =
      Tree.build 3 [] [] (lexemes body) := by
  have hlength : lineLength (header.toList ++ '\n' :: '\n' :: body) = header.toList.length :=
    lineLength_append (by decide) (by decide) _
  have hcomment : commentLength? (header.toList ++ '\n' :: '\n' :: body) =
      some (lineLength (header.toList ++ '\n' :: '\n' :: body)) := rfl
  have hblank : lexemeAt (header.toList ++ '\n' :: '\n' :: body) =
      (.blank, header.toList.length) := by
    refine lexemeAt_of_blank ?_
    rw [← hlength, ← hcomment]
    rfl
  rw [lexemes_eq_cons hblank (by decide) (by simp), build_blank rfl, List.drop_left, List.take_left]
  rw [build_cons_blank (by decide), build_cons_blank (by decide)]
  rfl

theorem isDocLine_summary (set : EventSet) (settings : Settings) :
    IsDocLine (set.summary settings).toList := by
  refine .inr ⟨?_, ?_⟩
  · simp [EventSet.summary, toString]
  · simp only [EventSet.summary, String.toList_append, List.getLast?_append]
    rfl

/-! ## Files -/

/-- Each argument of a path is printed as a text that is read as an argument. -/
def Dispatch.Prints (printer : ArgumentPrinter) (dispatch : Dispatch) : Prop :=
  ∀ reference ∈ dispatch.references, ∀ found ∈ reference.arguments, ∀ mode,
    Spoken .clear ((printer found).texts mode) .firm Forest.argument

section Files

variable {set : EventSet} {settings : Settings} {printer : ArgumentPrinter} {dispatch : Dispatch}

theorem prints_of_plain (printer : ArgumentPrinter)
    (hplain : ∀ reference ∈ dispatch.references, reference.arguments = []) :
    dispatch.Prints printer := by
  intro reference hreference found hfound
  rw [hplain reference hreference] at hfound
  cases hfound

theorem printedAll_of_dispatch (hdispatch : set.dispatch settings = .ok dispatch)
    (hprints : dispatch.Prints printer) : PrintedAll printer Forest.argument dispatch where
  paths reference hreference :=
    ⟨isCode_of_mem_references hdispatch reference hreference, hprints reference hreference⟩
  variants := (isCode_of_dispatch hdispatch 0).variants
  fields := (isCode_of_dispatch hdispatch 0).fields

/-- A generated file is plain text whose trees are those of the implementation, which
stands below the header where there is one. -/
theorem plain_render (dispatch : Dispatch) (settings : Settings) (printer : ArgumentPrinter) :
    IsPlain (dispatch.render settings printer).toList ∧
      Tree.ofText (dispatch.render settings printer).toList 1 =
        Tree.build (if settings.header then 3 else 1) [] []
          (lexemes (dispatch.layout printer).render.toList) := by
  rw [render]
  split
  · have htext : (header ++ "\n\n" ++ (dispatch.layout printer).render).toList =
        header.toList ++ '\n' :: '\n' :: (dispatch.layout printer).render.toList := by
      simp
    rw [htext]
    exact ⟨⟨by simp [header], rfl⟩, build_header _⟩
  · have hbody := render_layout_mem printer dispatch
    rw [parts, Layout.texts_concat, List.map_cons, List.prod_cons] at hbody
    exact ⟨isPlain_of_docLayout hbody, rfl⟩

theorem isDocLine_of_dispatch (hdispatch : set.dispatch settings = .ok dispatch) :
    IsDocLine dispatch.summary.toList :=
  (of_dispatch hdispatch).summary ▸ isDocLine_summary set settings

/-- Where no carriage return spoils the documentation, the trees of a generated file are
those of the implementation. -/
theorem exists_trees_render (hdispatch : set.dispatch settings = .ok dispatch)
    (hprints : dispatch.Prints printer) (hreturn : hasStrayReturn (set.summary settings) = false) :
    ∃ trees ∈ dispatch.forest Forest.argument,
      Tree.ofText (dispatch.render settings printer).toList 1 = .ok trees := by
  rw [← (of_dispatch hdispatch).summary] at hreturn
  obtain ⟨_, hyields⟩ := spoken_layout (printedAll_of_dispatch hdispatch hprints)
    (isDocLine_of_dispatch hdispatch) hreturn _ rfl [] (by simp [Edge.Allows])
  obtain ⟨trees, htrees, _, hbuild⟩ := hyields (if settings.header then 3 else 1) [] []
  rw [List.append_nil, lexemes_nil, List.append_nil, Tree.build, List.reverse_reverse] at hbuild
  exact ⟨trees, htrees, (plain_render dispatch settings printer).2.trans hbuild⟩

end Files

/-! ## Names as arguments -/

end EventDispatch
