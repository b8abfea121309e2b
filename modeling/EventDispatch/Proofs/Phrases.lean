import EventDispatch.Proofs.Reading

/-!
# Reading paths, types and patterns

The parts of an implementation below its expressions.  What a rule reads depends on what
stands behind it, so that each rule has a list of what may not: `EndsPath`, `EndsType`,
`ClosesArgument` and `EndsBinding`.  What it does first depends on how the trees begin;
a path begins with a name, a word for modules or types, or a double colon (`OpensPath`),
none of which opens any other type, pattern or expression.

Of the arguments in angles nothing is asked but that the grammar takes each of them where a
comma or the closing angle stands behind it (`IsArgument`).
-/

namespace EventDispatch.Source

/-! ## The front of a path -/

/-- The words that the language keeps for itself and that may open a path. -/
def pathWords : List String := ["super", "self", "crate", "Self"]

/-- A word that the language keeps for itself and that opens no path. -/
def isClosed (keyword : String) : Bool :=
  Peek.reserved.contains keyword && !pathWords.contains keyword

/-- A name or double colon stands ahead that may open a path. -/
inductive OpensPath : List Tree → Prop
  | name {ident : Ident} {line : Nat} {rest : List Tree} (hopens : isClosed ident.text = false) :
      OpensPath (.leaf (.ident ident) line :: rest)
  | rooted {joint : Bool} {first second : Nat} {rest : List Tree} :
      OpensPath (.leaf (.punct ':' true) first :: .leaf (.punct ':' joint) second :: rest)

namespace OpensPath

variable {trees : List Tree}

theorem anyOf (hopens : OpensPath trees) {words : List String}
    (hwords : words.all isClosed = true) : Peek.anyOf words trees = false := by
  cases hopens with
  | name hopens =>
      rw [Peek.anyOf, List.any_eq_false]
      intro word hword hfound
      have hclosed := List.all_eq_true.mp hwords word hword
      rw [← beq_iff_eq.mp hfound, hopens] at hclosed
      cases hclosed
  | rooted => exact List.any_eq_false.mpr fun _ _ => Bool.false_ne_true

theorem word (hopens : OpensPath trees) {keyword : String} (hkeyword : isClosed keyword = true) :
    Peek.word keyword trees = false := by
  have hwords : [keyword].all isClosed = true := by simpa using hkeyword
  simpa [Peek.anyOf] using hopens.anyOf hwords

theorem group (hopens : OpensPath trees) (delimiter : Delimiter) :
    Peek.group delimiter trees = false := by
  cases hopens <;> rfl

/-- No operator opens a path, apart from those that start with a colon. -/
theorem op (hopens : OpensPath trees) {operator : String}
    (hother : operator.toList.head?.any (· != ':') = true) : Peek.op operator trees = false := by
  cases hmarks : operator.toList with
  | nil => simp [hmarks] at hother
  | cons mark more =>
      have hne : mark ≠ ':' := by simpa [hmarks] using hother
      rw [Peek.op, hmarks]
      cases hopens with
      | name => cases more <;> rfl
      | rooted => cases more <;> simp [Peek.marks, hne.symm]

theorem lifetime (hopens : OpensPath trees) : Peek.lifetime trees = false := by
  cases hopens <;> rfl

theorem literal (hopens : OpensPath trees) : Peek.literal trees = false := by
  have htrue : Peek.word "true" trees = false := hopens.word rfl
  have hfalse : Peek.word "false" trees = false := hopens.word rfl
  cases hopens with
  | name => exact Bool.or_eq_false_iff.mpr ⟨htrue, hfalse⟩
  | rooted => rfl

end OpensPath

/-- A comma or the angle that closes a list of arguments stands ahead. -/
def ClosesArgument (trees : List Tree) : Prop :=
  ∃ mark ∈ [',', '>'], ∃ joint line rest, trees = .leaf (.punct mark joint) line :: rest

/-- The grammar takes the trees as an argument in angles. -/
structure IsArgument (rules : Rules) (trees : List Tree) : Prop where
  nonempty : trees ≠ []
  closing : ∀ rest, Peek.op ">" (trees ++ rest) = false
  equal : ∀ rest, Peek.op "=" (trees ++ rest) = false
  reads : ∀ rest, ClosesArgument rest →
    Parser.Reads (Parser.genericArgument rules) (trees ++ rest) () rest

/-- The name may be that of a segment, and takes its arguments if it has any. -/
structure Part.IsCode (rules : Rules) (part : Part) : Prop where
  name : ∃ ident : Ident, ident.text = part.name ∧ ident.IsSegment
  takes : part.arguments ≠ [] → part.name ∉ Reference.moduleWords
  arguments : ∀ argument ∈ part.arguments, ∀ trees ∈ argument, IsArgument rules trees

/-- The path is written with names that may be its segments, and may open a type. -/
structure Trail.IsCode (rules : Rules) (trail : Trail) : Prop where
  nonempty : trail.parts ≠ []
  parts : ∀ part ∈ trail.parts, part.IsCode rules
  opens : trail.rooted = true ∨ ∀ part ∈ trail.parts.head?, part.name ≠ "try"

/-- The last name stands behind all others and their colons. -/
theorem parts_concat (inExpr : Bool) (front : List Part) (last : Part) :
    Forest.parts inExpr (front ++ [last]) =
      (front.map fun part => Forest.part inExpr part * Forest.marks ':' ':').prod *
        Forest.part inExpr last := by
  induction front with
  | nil => rw [List.map_nil, List.prod_nil, one_mul, List.nil_append, Forest.parts]
  | cons first front ih =>
      rw [List.map_cons, List.prod_cons, mul_assoc, ← ih]
      cases front with
      | nil => rfl
      | cons second front => rfl

/-! ## Paths with something behind them -/

namespace Trail

variable {rules : Rules} {trail : Trail} {name : String} {argument : Language Tree}

/-- What the path names. -/
def names (trail : Trail) : Names where
  rooted := trail.rooted
  segments := trail.parts.map Part.name

/-- The path with a name behind it. -/
def child (trail : Trail) (name : String) : Trail :=
  { trail with parts := trail.parts ++ [{ name }] }

/-- The last name of the path has no arguments, and may have some. -/
def TakesArguments (trail : Trail) : Prop :=
  ∀ last ∈ trail.parts.getLast?, last.name ∉ Reference.moduleWords ∧ last.arguments = []

theorem IsCode.child (hcode : trail.IsCode rules) (hname : IsName name) :
    (trail.child name).IsCode rules where
  nonempty := by simp [Trail.child]
  parts := by
    obtain ⟨ident, hident, hname⟩ := hname
    simp only [Trail.child, List.mem_append, List.mem_singleton]
    rintro part (hpart | rfl)
    · exact hcode.parts part hpart
    · exact ⟨⟨ident, hident, .inr (hident ▸ hname)⟩, nofun, nofun⟩
  opens := by
    obtain ⟨part, parts, hparts⟩ := List.exists_cons_of_ne_nil hcode.nonempty
    simpa [Trail.child, hparts] using hcode.opens

theorem path_child {inExpr : Bool} (hsome : trail.parts ≠ []) (name : String) :
    Forest.path inExpr (trail.child name) =
      Forest.path inExpr trail * Forest.marks ':' ':' * Forest.word name := by
  obtain ⟨front, last, hparts⟩ : ∃ front last, trail.parts = front ++ [last] :=
    ⟨_, _, (List.dropLast_append_getLast hsome).symm⟩
  rw [Forest.path, Forest.path, Trail.child, parts_concat, hparts, parts_concat, List.map_append,
    List.prod_append, List.map_singleton, List.prod_singleton]
  simp only [Forest.part, Forest.angles, mul_assoc, mul_one]

end Trail

namespace Parser

variable {rules : Rules} {inExpr : Bool} {rest after : List Tree}

/-! ## Segments -/

/-- Nothing that goes on with a path stands ahead. -/
structure EndsPath (trees : List Tree) : Prop where
  colons : Peek.op "::" trees = false
  angle : Peek.op "<" trees = false

theorem EndsPath.arguments (hends : EndsPath rest) (inExpr : Bool) :
    Peek.argumentsFollow inExpr rest = false := by
  simp [Peek.argumentsFollow, Peek.angle, hends.colons, hends.angle]

section Segments

variable {trees : List Tree}

end Segments

/-! ## Paths -/

section Paths

variable {trail : Trail} {trees : List Tree}

end Paths

section Types

variable {before : List Tree} {shape : PathShape}

end Types

/-! ## Patterns -/

section Patterns

variable {ident : Ident}

section Struct

variable {level : Nat} {set : Trail} {variant : String} {trees : List Tree}

end Struct

end Patterns

end Parser

end EventDispatch.Source
