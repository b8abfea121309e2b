import EventDispatch.Layout
import EventDispatch.Proofs.Spoken

/-!
# The texts that a layout is written as

Where lines end depends on widths.  `Layout.texts` forgets them: it is the set of the
texts that a layout can be written as, each break being passed or not as the style
of its block permits.  What a layout is written as, behind what stands there already, is one
of them (`front_write_le`).

A break that no line is wide enough to pass breaks every block around it, the
outermost one too (`render_mem_texts_of_wide`).
-/

namespace EventDispatch

open Source (spaces spelled spelled_append)

/-- The texts of something written where a line begins or goes on: nothing, or the
text behind blanks. -/
def Break.side (text : String) : Language Char :=
  if text = "" then 1 else spaces * spelled text

namespace Layout

/-- The texts that a break becomes in a block written in the given mode. -/
def breakTexts (mode : Mode) (place : Break) : Language Char :=
  (if place.never ∨ mode ≠ .broken .consistent then spelled place.flat else 0) +
    if place.never ∨ mode = .flat then 0
    else Break.side place.before * spelled "\n" * Break.side place.after

/-- The texts that a layout becomes in a block written in the given mode. -/
def texts (mode : Mode) : Layout → Language Char
  | done => 1
  | text s rest => spaces * spelled s * texts mode rest
  | line place rest => breakTexts mode place * texts mode rest
  | block style _ body rest => (texts .flat body + texts (.broken style) body) * texts mode rest

section Composition

variable (mode : Mode)

theorem texts_append (first second : Layout) :
    (first ++ second).texts mode = first.texts mode * second.texts mode := by
  change (append first second).texts mode = _
  induction first with
  | done => rw [append, texts, one_mul]
  | text s rest ih => rw [append, texts, texts, ih, mul_assoc (spaces * spelled s)]
  | line place rest ih => rw [append, texts, texts, ih, mul_assoc]
  | block style indent body rest _ ih => rw [append, texts, texts, ih, mul_assoc]

theorem texts_concat (layouts : List Layout) :
    (concat layouts).texts mode = (layouts.map (texts mode)).prod := by
  induction layouts with
  | nil => rfl
  | cons first others ih =>
      rw [List.map_cons, List.prod_cons, ← ih]
      exact texts_append mode first (concat others)

theorem texts_word (s : String) : (word s).texts mode = spaces * spelled s := by
  rw [word, texts, texts, mul_one]

theorem texts_gap (place : Break) : (gap place).texts mode = breakTexts mode place := by
  rw [gap, texts, texts, mul_one]

theorem texts_block (style : BlockStyle) (indent : Int) (body : Layout) :
    (block style indent body done).texts mode =
      body.texts .flat + body.texts (.broken style) := by
  rw [texts, texts, mul_one]

end Composition

/-! ## What is written -/

namespace Page

/-- What has been written, from its start. -/
def front (page : Page) : Language Char :=
  {page.written.reverse}

variable (page : Page)

theorem front_put_le (s : String) : (page.put s).front ≤ page.front * (spaces * spelled s) := by
  rintro _ rfl
  have hblanks : List.replicate page.blanks ' ' ∈ spaces := fun c hc => List.eq_of_mem_replicate hc
  refine ⟨_, rfl, _, ⟨_, hblanks, _, rfl, rfl⟩, ?_⟩
  simp [put]

theorem front_side_le (s : String) :
    (if s = "" then page else page.put s).front ≤ page.front * Break.side s := by
  unfold Break.side
  split
  · rw [mul_one]
  · exact page.front_put_le s

theorem front_carryOn_le (place : Break) :
    (page.carryOn place).front ≤ page.front * spelled place.flat := by
  rintro _ rfl
  exact ⟨_, rfl, _, rfl, by simp [carryOn]⟩

theorem front_endLine_le (place : Break) :
    (page.endLine place).front ≤
      page.front * (Break.side place.before * spelled "\n" * Break.side place.after) := by
  rw [← mul_assoc, ← mul_assoc]
  unfold endLine
  refine (front_side_le _ place.after).trans (mul_le_mul_left ?_ _)
  rintro _ rfl
  exact ⟨_, page.front_side_le place.before rfl, _, rfl, by simp⟩

end Page

/-- A break becomes one of its texts. -/
theorem front_break_le (mode : Mode) (place : Break) (reached : Nat) (page : Page) :
    (if goesOn mode place reached page then page.carryOn place else page.endLine place).front ≤
      page.front * breakTexts mode place := by
  unfold breakTexts
  rw [mul_add]
  cases hgoes : goesOn mode place reached page with
  | true =>
      have hpasses : place.never = true ∨ mode ≠ .broken .consistent := by
        refine or_iff_not_imp_right.mpr fun hmode => ?_
        rw [not_not.mp hmode] at hgoes
        simpa [goesOn] using hgoes
      rw [if_pos rfl, if_pos hpasses]
      exact (page.front_carryOn_le place).trans le_self_add
  | false =>
      have hends : ¬ (place.never = true ∨ mode = .flat) := by
        rintro (hnever | rfl)
        · simp [goesOn, hnever] at hgoes
        · simp [goesOn] at hgoes
      rw [if_neg Bool.false_ne_true, if_neg hends]
      exact (page.front_endLine_le place).trans le_add_self

/-- A layout is written as one of its texts, behind what stands there.  The induction is on
the layout, for all pages and modes, since a block is written in a mode of its own. -/
theorem front_write_le (mode : Mode) (beyond : Nat) (layout : Layout) (page : Page) :
    (write mode beyond layout page).front ≤ page.front * layout.texts mode := by
  induction layout generalizing mode beyond page with
  | done => rw [write, texts, mul_one]
  | text s rest ih =>
      rw [write, texts, ← mul_assoc]
      exact (ih mode beyond _).trans (mul_le_mul_left (page.front_put_le s) _)
  | line place rest ih =>
      rw [write, texts, ← mul_assoc, ← apply_ite (write mode beyond rest)]
      exact (ih mode beyond _).trans (mul_le_mul_left (front_break_le mode place _ page) _)
  | block style indent body rest ihbody ihrest =>
      rw [write, texts, ← mul_assoc]
      split
      · refine (ihrest mode beyond _).trans (mul_le_mul_left ?_ _)
        refine (ihbody (.broken style) _ _).trans (mul_le_mul_right ?_ _)
        exact le_add_self
      · refine (ihrest mode beyond _).trans (mul_le_mul_left ?_ _)
        exact (ihbody .flat _ _).trans (mul_le_mul_right le_self_add _)

theorem width_append (first second : Layout) :
    (first ++ second).width = first.width + second.width := by
  change (append first second).width = _
  induction first with
  | done => simp [append, width]
  | text s rest ih => simp [append, width, ih, Nat.add_assoc]
  | line place rest ih => simp [append, width, ih, Nat.add_assoc]
  | block style indent body rest _ ih => simp [append, width, ih, Nat.add_assoc]

/-- A block that is too wide for the first line is broken. -/
theorem render_mem_texts_of_wide {style : BlockStyle} {indent : Int} {body : Layout}
    (hwide : margin < body.width) :
    (block style indent body done).render.toList ∈ body.texts (.broken style) := by
  have hbody := front_write_le (.broken style) 0 body { indent := 0 + indent }
  rw [show Page.front { indent := 0 + indent } = 1 from rfl, one_mul] at hbody
  have hbroken : body.width + reach 0 done > ({} : Page).room := by
    rw [reach]
    exact hwide
  rw [render, String.toList_ofList, write, if_pos hbroken]
  exact hbody rfl

/-! ## What layouts are read as -/

section Spoken

open Source

variable {mode : Mode} {before middle after : Edge} {forest more : Language Tree}

theorem spoken_word {s : String} (hspoken : Spoken before (spelled s) after forest)
    (mode : Mode) : Spoken before ((word s).texts mode) after forest := by
  rw [texts_word, ← one_mul forest]
  exact (Spoken.spaces before).mul hspoken

/-- A break with no text of its own is read over. -/
theorem spoken_gap {place : Break} (hbefore : place.before = "") (hafter : place.after = "")
    (hflat : place.flat = "") (edge : Edge) : Spoken edge ((gap place).texts mode) edge 1 := by
  have hend : Spoken edge (spelled "\n") edge 1 := .blank rfl (by decide) (by decide)
  rw [texts_gap, breakTexts, hbefore, hafter, hflat]
  refine .add ?_ ?_
  · split
    · exact .one edge
    · exact .zero
  · split
    · exact .zero
    · simpa [Break.side] using hend

theorem spoken_block {style : BlockStyle} {indent : Int} {body : Layout}
    (hbody : ∀ mode, Spoken before (body.texts mode) after forest) :
    Spoken before ((block style indent body done).texts mode) after forest := by
  rw [texts_block]
  exact (hbody .flat).add (hbody (.broken style))

/-- A block that opens what is closed behind it. -/
theorem spoken_block_append {style : BlockStyle} {indent : Int} {body rest : Layout}
    (hbody : ∀ inner, Spoken before (body.texts inner * rest.texts mode) after forest) :
    Spoken before ((block style indent body done ++ rest).texts mode) after forest := by
  rw [texts_append, texts_block, add_mul]
  exact (hbody .flat).add (hbody (.broken style))

theorem spoken_nil (edge : Edge) : Spoken edge ((concat []).texts mode) edge 1 :=
  .one edge

theorem spoken_cons {layout : Layout} {others : List Layout}
    (hfirst : Spoken before (layout.texts mode) middle forest)
    (hothers : Spoken middle ((concat others).texts mode) after more) :
    Spoken before ((concat (layout :: others)).texts mode) after (forest * more) := by
  rw [texts_concat, List.map_cons, List.prod_cons, ← texts_concat]
  exact hfirst.mul hothers

end Spoken

end Layout

end EventDispatch
