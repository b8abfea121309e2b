import EventDispatch.Proofs.Items
import EventDispatch.Proofs.Spoken

/-!
# What a parser reads

`Parser.Reads parser before value after` says that the parser reads the trees `before`
as far as `after`, with a value, wherever they stand.  It composes along the steps of a
rule, and at a choice it follows the branch that the trees ahead select.  Most tests look
at the kind of the next tree only, so that they are decided by computation.

`Parser.Passes` says the same of every list of trees of a forest, as long as what stands
behind them is such that the parser stops there.
-/

namespace EventDispatch.Source

namespace Parser

variable {α β : Type} {before middle after : List Tree} {value : α} {result : β}

/-- The parser reads the trees as far as given, with a value, and nothing in them is
superfluous. -/
def Reads (parser : Parser α) (before : List Tree) (value : α) (after : List Tree) : Prop :=
  ∀ close superfluous,
    parser ⟨before, close, superfluous⟩ = .ok (value, ⟨after, close, superfluous⟩)

/-- The parser fails, wherever the trees stand. -/
def Fails (parser : Parser α) (before : List Tree) : Prop :=
  ∀ close superfluous, ∃ line, parser ⟨before, close, superfluous⟩ = .error line

/-! ## Steps -/

section Steps

variable {parser element : Parser α} {next : α → Parser β} {other : Parser β}

theorem reads_pure (value : α) (trees : List Tree) : Reads (pure value) trees value trees :=
  fun _ _ => rfl

theorem Reads.bind (hparser : Reads parser before value middle)
    (hnext : Reads (next value) middle result after) :
    Reads (parser >>= next) before result after := by
  intro close superfluous
  show (parser _ >>= _) = _
  rw [hparser close superfluous]
  exact hnext close superfluous

/-- The parser in front of a choice answers that the first branch is to be taken. -/
theorem Reads.yes {choice : Parser Bool} {first : Parser β}
    (hchoice : Reads choice before true middle) (hfirst : Reads first middle result after) :
    Reads (choice >>= fun holds => if holds = true then first else other) before result after :=
  hchoice.bind hfirst

/-- The parser in front of a choice answers that the second branch is to be taken. -/
theorem Reads.no {choice : Parser Bool} {first : Parser β}
    (hchoice : Reads choice before false middle) (hother : Reads other middle result after) :
    Reads (choice >>= fun holds => if holds = true then first else other) before result after :=
  hchoice.bind hother

theorem reads_peek {test : Peek} {holds : Bool} (htest : test before = holds) :
    Reads (peek test) before holds before := by
  intro close superfluous
  rw [peek, htest]

/-- A test that holds selects the first branch. -/
theorem Reads.take {test : Peek} {first : Parser β} (htest : test before = true)
    (hfirst : Reads first before result after) :
    Reads (peek test >>= fun holds => if holds = true then first else other) before result after :=
  (reads_peek htest).yes hfirst

/-- A test that fails selects the second branch. -/
theorem Reads.skip {test : Peek} {first : Parser β} (htest : test before = false)
    (hother : Reads other before result after) :
    Reads (peek test >>= fun holds => if holds = true then first else other) before result after :=
  (reads_peek htest).no hother

theorem Reads.line {next : Nat → Parser β}
    (hnext : ∀ start, Reads (next start) before result after) :
    Reads (line >>= next) before result after :=
  fun close superfluous => hnext _ close superfluous

theorem Reads.get {next : Cursor → Parser β}
    (hnext : ∀ close superfluous, Reads (next ⟨before, close, superfluous⟩) before result after) :
    Reads (get >>= next) before result after :=
  fun close superfluous => hnext close superfluous close superfluous

end Steps

/-! ## Tokens -/

section Tokens

variable {operator keyword : String} {words : List String} {ident : Ident} {line : Nat}

theorem Reads.inGroup {content : Parser α} {inner : List Tree}
    (hcontent : Reads content inner value []) (delimiter : Delimiter) (opening closing : Nat)
    (after : List Tree) :
    Reads (inGroup delimiter content) (.group delimiter opening closing inner :: after) value
      after := by
  intro close superfluous
  have hinner := hcontent closing superfluous
  simp [Parser.inGroup, hinner]

end Tokens

/-! ## Attempts -/

theorem Reads.attempt {parser : Parser α} (hparser : Reads parser before value after) :
    Reads (attempt parser) before (some value) after := by
  intro close superfluous
  rw [Parser.attempt, hparser close superfluous]

theorem Fails.attempt {parser : Parser α} (hparser : Fails parser before) :
    Reads (attempt parser) before none before := by
  intro close superfluous
  obtain ⟨line, hline⟩ := hparser close superfluous
  rw [Parser.attempt, hline]

/-! ## Repetition -/

/-- The elements, as long as the test holds, are read one behind the other. -/
inductive ReadsAll (test : Peek) (element : Parser α) :
    List Tree → List α → List Tree → Prop
  | stop {before : List Tree} (htest : test before = false) : ReadsAll test element before [] before
  | more {before middle after : List Tree} {value : α} {values : List α}
      (htest : test before = true) (helement : Reads element before value middle)
      (hshorter : middle.length < before.length)
      (hrest : ReadsAll test element middle values after) :
      ReadsAll test element before (value :: values) after

/-- The elements are read with separators between them, up to the stop. -/
inductive ReadsApart (stop : Peek) (separator : Parser Unit) (element : Parser α) :
    List Tree → List α → List Tree → Prop
  | none {before : List Tree} (hstop : stop before = true) :
      ReadsApart stop separator element before [] before
  | last {before after : List Tree} {value : α} (hgoes : stop before = false)
      (helement : Reads element before value after) (hstop : stop after = true) :
      ReadsApart stop separator element before [value] after
  | more {before middle next after : List Tree} {value : α} {values : List α}
      (hgoes : stop before = false) (helement : Reads element before value middle)
      (hgoesOn : stop middle = false) (hseparator : Reads separator middle () next)
      (hshorter : next.length < before.length)
      (hrest : ReadsApart stop separator element next values after) :
      ReadsApart stop separator element before (value :: values) after

section Repetition

variable {element : Parser α} {separator : Parser Unit} {values : List α} {test stop : Peek}

theorem reads_bound (trees : List Tree) : Reads bound trees (trees.length + 1) trees :=
  fun _ _ => rfl

-- Every element takes a tree, so that a bound above their number is never used up.
theorem ReadsAll.whileAtMost (hall : ReadsAll test element before values after) :
    ∀ bound, before.length < bound →
      Reads (whileAtMost test element bound) before values after := by
  induction hall with
  | stop htest =>
      intro bound hbound
      obtain ⟨bound, rfl⟩ := Nat.exists_eq_succ_of_ne_zero (Nat.ne_zero_of_lt hbound)
      exact .skip htest (reads_pure [] _)
  | more htest helement hshorter _ ih =>
      intro bound hbound
      obtain ⟨bound, rfl⟩ := Nat.exists_eq_succ_of_ne_zero (Nat.ne_zero_of_lt hbound)
      have hrest := ih bound (by omega)
      exact .take htest (helement.bind (hrest.bind (reads_pure _ _)))

theorem ReadsAll.whilePeek (hall : ReadsAll test element before values after) :
    Reads (whilePeek test element) before values after :=
  (reads_bound before).bind (hall.whileAtMost _ (Nat.lt_succ_self _))

theorem ReadsApart.separatedAtMost (hall : ReadsApart stop separator element before values after) :
    ∀ bound, before.length < bound →
      Reads (separatedAtMost stop separator element bound) before values after := by
  induction hall with
  | none hstop =>
      intro bound hbound
      obtain ⟨bound, rfl⟩ := Nat.exists_eq_succ_of_ne_zero (Nat.ne_zero_of_lt hbound)
      exact .take hstop (reads_pure [] _)
  | last hgoes helement hstop =>
      intro bound hbound
      obtain ⟨bound, rfl⟩ := Nat.exists_eq_succ_of_ne_zero (Nat.ne_zero_of_lt hbound)
      exact .skip hgoes (helement.bind (.take hstop (reads_pure _ _)))
  | more hgoes helement hgoesOn hseparator hshorter _ ih =>
      intro bound hbound
      obtain ⟨bound, rfl⟩ := Nat.exists_eq_succ_of_ne_zero (Nat.ne_zero_of_lt hbound)
      have hrest := ih bound (by omega)
      refine .skip hgoes (helement.bind (.skip hgoesOn ?_))
      exact hseparator.bind (hrest.bind (reads_pure _ _))

theorem ReadsApart.separated (hall : ReadsApart stop separator element before values after) :
    Reads (separated stop separator element) before values after :=
  (reads_bound before).bind (hall.separatedAtMost _ (Nat.lt_succ_self _))

end Repetition

/-! ## Forests -/

/-- The parser passes all trees of the forest that stand ahead, with a value, when it stops
at what is behind them. -/
def Passes (parser : Parser α) (forest : Language Tree) (stops : List Tree → Prop) (value : α) :
    Prop :=
  ∀ trees ∈ forest, trees ≠ [] ∧ ∀ rest, stops rest → Reads parser (trees ++ rest) value rest

section Lists

variable {element : Parser α} {stops : List Tree → Prop} {values : List α}
  {elements : List (Language Tree)} {trees : List Tree}

/-- The parser passes the trees of each of the forests with the value at its place. -/
abbrev PassesAll (element : Parser α) (stops : List Tree → Prop) (elements : List (Language Tree))
    (values : List α) : Prop :=
  List.Forall₂ (fun forest value => Passes element forest stops value) elements values

theorem PassesAll.same (helements : ∀ forest ∈ elements, Passes element forest stops value) :
    PassesAll element stops elements (elements.map fun _ => value) :=
  List.forall₂_map_right_iff.mpr (List.forall₂_same.mpr helements)

end Lists

end Parser

end EventDispatch.Source
