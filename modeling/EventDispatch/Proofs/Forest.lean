import EventDispatch.Proofs.Dispatch
import EventDispatch.Proofs.Phrases
import EventDispatch.Proofs.Quotation

/-!
# Dispatch code as trees

What the trees of a generated implementation are, whatever the widths of its names:
`Dispatch.forest` lists them with everything that depends on widths left open, which
is the comma behind the last element of a list, and the braces around the result of an
arm in place of the comma behind it.  The arguments in the angles of a path are any trees
of a given language.

The names and paths that code is generated with are none that the language keeps for
itself, unless they may be segments of a path (`isCode_of_dispatch`).  An argument of a
path is asked to be taken by the grammar at no more levels than its own trees can take
(`Forest.argument`); those of an implementation suffice for all arguments in it, since none
is larger than the implementation (`narrows_implForest`).
-/

namespace EventDispatch

open Source

/-! ## The trees -/

namespace Dispatch

open Forest

section Forests

variable (dispatch : Dispatch) (argument : Language Tree)

/-- A name behind the path of a type. -/
def childForest (type : Reference) (name : String) : Language Tree :=
  path true ((type.trail argument).child name)

/-- The pair of a key and the value of a field. -/
def pairForest (binding : Binding) : Language Tree :=
  group .paren (listed [quoted binding.key,
    childForest argument dispatch.paramValue "from" *
      group .paren (listed [word binding.field])])

/-- The parameters that an arm passes on. -/
def paramsForest (arm : Arm) : Language Tree :=
  if arm.bindings.isEmpty then childForest argument dispatch.params "new" * group .paren 1
  else childForest argument dispatch.params "from" *
    group .paren (group .bracket (listed (arm.bindings.map (dispatch.pairForest argument))))

/-- The result of an arm. -/
def resultForest (arm : Arm) : Language Tree :=
  group .paren (listed [quoted arm.eventName, dispatch.paramsForest argument arm])

/-- The pattern of an arm. -/
def patternForest (arm : Arm) : Language Tree :=
  childForest argument dispatch.set arm.variant *
    group .brace (fields (arm.bindings.map Binding.field))

/-- An arm, its result with a comma behind it or in braces with the ending. -/
def armForest (pattern result ending : Language Tree) : Language Tree :=
  pattern * marks '=' '>' * (result * mark ',' + group .brace (result * ending))

/-- The arms of the match. -/
def armForests : List (Language Tree) :=
  (dispatch.arms.map fun arm =>
    armForest (dispatch.patternForest argument arm) (dispatch.resultForest argument arm) 1) ++
    if dispatch.fallback then [armForest (word "_") (word "return") (mark ';')] else []

/-- The match with its arms. -/
def matchForest : Language Tree :=
  word "match" * word "event" * group .brace (dispatch.armForests argument).prod

/-- The binding of the event's name and parameters. -/
def bindForest : Language Tree :=
  word "let" * group .paren (listed [word "name", word "params"]) * mark '=' *
    dispatch.matchForest argument * mark ';'

/-- The call of the tracker. -/
def callForest : Language Tree :=
  word "self" * mark '.' * word "log_event" *
    group .paren (word "name" * mark ',' * word "params") * mark ';'

/-- The type of the events. -/
def setForest : Language Tree :=
  path false (dispatch.set.trail argument)

/-- The head of the tracking function. -/
def signatureForest : Language Tree :=
  word "fn" * word "track" * group .paren (listed [mark '&' * word "self",
    word "event" * mark ':' * (mark '&' * dispatch.setForest argument)])

/-- The tracking function. -/
def functionForest : Language Tree :=
  dispatch.signatureForest argument * group .brace (dispatch.bindForest argument * callForest)

/-- The attribute that lets names have capitals. -/
def allowForest : Language Tree :=
  if dispatch.allowsCapitals then
    mark '#' * group .bracket (word "allow" * group .paren (word "non_snake_case"))
  else 1

/-- The head of the implementation. -/
def headForest : Language Tree :=
  word "impl" * (path false (dispatch.trackEvent.trail argument) *
      (mark '<' * listed [dispatch.setForest argument] * mark '>')) *
    (word "for" * path false (dispatch.tracker.trail argument))

/-- The implementation without its documentation. -/
def implForest : Language Tree :=
  dispatch.headForest argument *
    group .brace (dispatch.allowForest * dispatch.functionForest argument)

/-- The implementation with its documentation. -/
def forest : Language Tree :=
  doc * doc * doc * dispatch.implForest argument

end Forests

end Dispatch

/-! ## Small arguments -/

namespace Source

theorem Tree.sizeAll_append (first second : List Tree) :
    Tree.sizeAll (first ++ second) = Tree.sizeAll first + Tree.sizeAll second := by
  induction first with
  | nil => simp [Tree.sizeAll]
  | cons tree rest ih => simp [Tree.sizeAll, ih, Nat.add_assoc]

/-- The trees of a forest that are no larger than a size. -/
def Forest.within (size : Nat) (forest : Language Tree) : Language Tree :=
  {trees | trees ∈ forest ∧ Tree.sizeAll trees ≤ size}

/-- What is built of arguments is built of such that are no larger than it is. -/
def Narrows (build : Language Tree → Language Tree) : Prop :=
  ∀ argument size trees, trees ∈ build argument → Tree.sizeAll trees ≤ size →
    trees ∈ build (Forest.within size argument)

namespace Narrows

variable {first second : Language Tree → Language Tree}

theorem const (forest : Language Tree) : Narrows fun _ => forest :=
  fun _ _ _ htrees _ => htrees

theorem argument : Narrows fun argument => argument :=
  fun _ _ _ htrees hsize => ⟨htrees, hsize⟩

theorem mul (hfirst : Narrows first) (hsecond : Narrows second) :
    Narrows fun argument => first argument * second argument := by
  intro argument size trees htrees hsize
  obtain ⟨front, hfront, back, hback, rfl⟩ := Language.mem_mul.mp htrees
  rw [Tree.sizeAll_append] at hsize
  exact Language.append_mem_mul (hfirst argument size front hfront (by omega))
    (hsecond argument size back hback (by omega))

theorem add (hfirst : Narrows first) (hsecond : Narrows second) :
    Narrows fun argument => first argument + second argument := by
  intro argument size trees htrees hsize
  rw [Language.mem_add] at htrees ⊢
  exact htrees.imp (hfirst argument size trees · hsize) (hsecond argument size trees · hsize)

theorem group (delimiter : Delimiter) (hfirst : Narrows first) :
    Narrows fun argument => Forest.group delimiter (first argument) := by
  rintro argument size _ ⟨opening, closing, inner, hinner, rfl⟩ hsize
  refine ⟨opening, closing, inner, hfirst argument size inner hinner ?_, rfl⟩
  simp only [Tree.sizeAll, Tree.size] at hsize
  omega

theorem prod {ι : Type} {items : List ι} {build : ι → Language Tree → Language Tree}
    (hitems : ∀ item ∈ items, Narrows (build item)) :
    Narrows fun argument => (items.map fun item => build item argument).prod := by
  induction items with
  | nil => exact const 1
  | cons item items ih =>
      obtain ⟨hitem, hitems⟩ := List.forall_mem_cons.mp hitems
      simp only [List.map_cons, List.prod_cons]
      exact mul hitem (ih hitems)

theorem listed {ι : Type} {items : List ι} {build : ι → Language Tree → Language Tree}
    (hitems : ∀ item ∈ items, Narrows (build item)) :
    Narrows fun argument => Forest.listed (items.map fun item => build item argument) := by
  refine mul ?_ (const (1 + Forest.mark ','))
  induction items with
  | nil => exact const 1
  | cons item items ih =>
      obtain ⟨hitem, hitems⟩ := List.forall_mem_cons.mp hitems
      cases items with
      | nil => exact hitem
      | cons next items => exact mul (mul hitem (const (Forest.mark ','))) (ih hitems)

theorem angles (inExpr : Bool) (arguments : List (List Tree)) :
    Narrows fun argument => Forest.angles inExpr (arguments.map fun _ => argument) := by
  cases arguments with
  | nil => exact const 1
  | cons first others =>
      have hlisted : Narrows fun argument =>
          Forest.listed ((first :: others).map fun _ => argument) :=
        listed fun _ _ => argument
      exact mul (const _) (mul (mul (const _) hlisted) (const _))

theorem path (inExpr : Bool) (reference : Reference) :
    Narrows fun argument => Forest.path inExpr (reference.trail argument) := by
  obtain ⟨rooted, segments⟩ := reference
  refine mul (const (if rooted then Forest.marks ':' ':' else 1)) ?_
  induction segments with
  | nil => exact const 1
  | cons segment segments ih =>
      have hpart : Narrows fun argument => Forest.word segment.name * Forest.angles inExpr
          (((segment.angles.map Angles.arguments).getD []).map fun _ => argument) :=
        mul (const _) (angles inExpr _)
      cases segments with
      | nil => exact hpart
      | cons next segments => exact mul (mul hpart (const _)) ih

end Narrows

/-- A path that a name stands behind. -/
def Reference.child (reference : Reference) (name : String) : Reference :=
  { reference with segments := reference.segments ++ [{ name }] }

end Source

namespace Dispatch

variable (dispatch : Dispatch)

end Dispatch

/-! ## Names and paths that stand in code -/

/-- What the grammar takes as an argument in angles, if it has as many levels as the trees of
the argument can take. -/
def Source.Forest.argument : Language Tree :=
  {trees | ∀ level, Item.levels trees ≤ level → IsArgument (Rules.level level) trees}

theorem isArgument_of_mem_within {size level : Nat} {trees : List Tree}
    (htrees : trees ∈ Forest.within size Forest.argument) (hlevel : 8 * (size + 2) ≤ level) :
    IsArgument (Rules.level level) trees := by
  obtain ⟨hargument, hsize⟩ := htrees
  refine hargument level ?_
  rw [Item.levels]
  omega

/-- The path is written with names that may be its segments. -/
def Source.Reference.IsCode (reference : Reference) : Prop :=
  reference.segments ≠ [] ∧ ∀ segment ∈ reference.segments, segment.IsCode

theorem isCode_of_readPath {text : String} {reference : Reference}
    (hread : EventSet.readPath text = .ok reference) : reference.IsCode := by
  rw [EventSet.readPath, mapError_eq_ok_iff] at hread
  exact Reference.isCode_of_ofText hread

theorem isName_of_readIdent {text name : String} (hread : EventSet.readIdent text = .ok name) :
    IsName name := by
  rw [EventSet.readIdent, mapError_eq_ok_iff] at hread
  obtain ⟨trees, _, hread⟩ := bind_eq_ok_iff.mp hread
  obtain ⟨⟨found, rest⟩, hahead, hread⟩ := bind_eq_ok_iff.mp hread
  obtain ⟨ident, line, _, rfl, hname⟩ := Reference.exists_of_nameAhead hahead
  cases rest with
  | nil =>
      cases hread
      exact ⟨ident, rfl, hname.resolve_left (List.not_mem_nil)⟩
  | cons tree rest => cases hread

theorem isCode_trail {rules : Rules} {reference : Reference} {argument : Language Tree}
    (hcode : reference.IsCode) (hopens : reference.opensType = true)
    (hargument : ∀ trees ∈ argument, IsArgument rules trees) :
    (reference.trail argument).IsCode rules where
  nonempty := by simpa [Reference.trail] using hcode.1
  parts := by
    intro part hpart
    obtain ⟨segment, hsegment, rfl⟩ := List.mem_map.mp hpart
    obtain ⟨ident, hident, hname, htakes⟩ := hcode.2 segment hsegment
    refine ⟨⟨ident, hident, hname⟩, fun hsome => ?_, ?_⟩
    · show segment.name ∉ Reference.moduleWords
      rw [← hident]
      refine htakes fun hnone => hsome ?_
      simp [hnone]
    · rintro _ hmem
      obtain ⟨_, _, rfl⟩ := List.mem_map.mp hmem
      exact hargument
  opens := by
    rcases Bool.or_eq_true_iff.mp hopens with hrooted | hfirst
    · exact .inl hrooted
    · refine .inr fun part hpart htry => ?_
      rw [bne_iff_ne] at hfirst
      simp only [Reference.trail, List.head?_map, Option.mem_def, Option.map_eq_some_iff] at hpart
      obtain ⟨segment, hsegment, rfl⟩ := hpart
      refine hfirst ?_
      rw [Reference.names, List.head?_map, hsegment]
      exact congrArg some htry

theorem takesArguments_trail {reference : Reference} (argument : Language Tree)
    (htakes : reference.takesArguments = true) : (reference.trail argument).TakesArguments := by
  intro part hpart
  simp only [Reference.trail, List.getLast?_map, Option.mem_def, Option.map_eq_some_iff] at hpart
  obtain ⟨last, hlast, rfl⟩ := hpart
  simp only [Reference.takesArguments, hlast, Option.all_some, Bool.and_eq_true,
    Bool.not_eq_true', Option.isNone_iff_eq_none] at htakes
  exact ⟨by simpa using htakes.1, by simp [htakes.2]⟩

/-- The names and paths of an implementation fit where they stand in the code, for the rules of
all levels from the given one on. -/
structure Dispatch.IsCode (argument : Language Tree) (level : Nat) (dispatch : Dispatch) :
    Prop where
  paths : ∀ reference ∈ dispatch.references, ∀ higher, level ≤ higher →
    (reference.trail argument).IsCode (Rules.level higher)
  takesArguments : (dispatch.trackEvent.trail argument).TakesArguments
  variants : ∀ arm ∈ dispatch.arms, IsName arm.variant
  fields : ∀ arm ∈ dispatch.arms, ∀ name ∈ arm.bindings.map Binding.field, IsName name

theorem Dispatch.IsCode.mono {argument : Language Tree} {level higher : Nat} {dispatch : Dispatch}
    (hcode : dispatch.IsCode argument level) (hle : level ≤ higher) :
    dispatch.IsCode argument higher :=
  { hcode with
    paths := fun reference hmem other hother =>
      hcode.paths reference hmem other (hle.trans hother) }

theorem names_of_readArm {variant : Variant} {arm : Arm}
    (hread : EventSet.readArm variant = .ok arm) :
    IsName arm.variant ∧ ∀ name ∈ arm.bindings.map Binding.field, IsName name := by
  obtain ⟨name, hname, hread⟩ := bind_eq_ok_iff.mp hread
  obtain ⟨bindings, hbindings, hread⟩ := bind_eq_ok_iff.mp hread
  cases hread
  refine ⟨isName_of_readIdent hname, List.forall_mem_map.mpr fun binding hbinding => ?_⟩
  obtain ⟨field, _, hfield⟩ := exists_of_mem_mapM hbindings binding hbinding
  obtain ⟨ident, hident, hresult⟩ := bind_eq_ok_iff.mp hfield
  cases hresult
  exact isName_of_readIdent hident

section Generated

variable {set : EventSet} {settings : Settings} {dispatch : Dispatch}

theorem isCode_of_mem_references (hdispatch : set.dispatch settings = .ok dispatch) :
    ∀ reference ∈ dispatch.references, reference.IsCode := by
  have hof := of_dispatch hdispatch
  simpa only [Dispatch.references, List.forall_mem_cons, List.not_mem_nil, false_imp_iff,
    implies_true, and_true] using
    ⟨isCode_of_readPath hof.path, isCode_of_readPath hof.tracker,
      isCode_of_readPath hof.trackEvent, isCode_of_readPath hof.params,
      isCode_of_readPath hof.paramValue⟩

theorem isCode_of_dispatch (hdispatch : set.dispatch settings = .ok dispatch) (size : Nat) :
    dispatch.IsCode (Forest.within size Forest.argument) (8 * (size + 2)) := by
  have hof := of_dispatch hdispatch
  have harm (arm : Arm) (hmem : arm ∈ dispatch.arms) :
      IsName arm.variant ∧ ∀ name ∈ arm.bindings.map Binding.field, IsName name := by
    obtain ⟨variant, _, hread⟩ := exists_of_mem_mapM hof.arms arm hmem
    exact names_of_readArm hread
  refine ⟨fun reference hmem higher hhigher => ?_, takesArguments_trail _ hof.fits.takesArguments,
    fun arm hmem => (harm arm hmem).1, fun arm hmem => (harm arm hmem).2⟩
  exact isCode_trail (isCode_of_mem_references hdispatch reference hmem)
    (hof.fits.opens reference hmem) fun trees htrees => isArgument_of_mem_within htrees hhigher

end Generated

end EventDispatch
