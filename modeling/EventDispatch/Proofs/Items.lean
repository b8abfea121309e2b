import EventDispatch.Proofs.Declarations
import EventDispatch.Proofs.EventSet
import EventDispatch.Proofs.Result
import EventDispatch.Source.File

/-!
# Which names a source file can declare

The grammar takes the name of a type, a variant or a field only where it is an
identifier that the language does not keep for itself.  There are two
exceptions: a field may be written `_`, and a module may be called `try`.
`named_of_ofSource` says so of every type of a file that is read.

`Parser.Returns` states a property of whatever a parser answers.  It is closed
under the combinators of the grammar, so that each rule has one lemma, and the
nested rules follow by induction on their level.
-/

namespace EventDispatch.Source

/-! ## Results of parsers -/

/-- Whatever the parser accepts, its result has the property. -/
def Parser.Returns {α : Type} (parser : Parser α) (property : α → Prop) : Prop :=
  ∀ cursor value next, parser cursor = .ok (value, next) → property value

namespace Parser

section Combinators

variable {α β : Type} {parser element : Parser α} {given property : α → Prop}
  {result : β → Prop}

theorem returns_pure {value : α} (hvalue : property value) :
    (pure value : Parser α).Returns property := by
  intro cursor found next hrun
  cases hrun
  exact hvalue

theorem exists_of_bind {next : α → Parser β} {cursor last : Cursor} {value : β}
    (hrun : (parser >>= next) cursor = .ok (value, last)) :
    ∃ found middle, parser cursor = .ok (found, middle) ∧
      next found middle = .ok (value, last) := by
  obtain ⟨⟨found, middle⟩, hfound, hnext⟩ := bind_eq_ok_iff.mp hrun
  exact ⟨found, middle, hfound, hnext⟩

theorem returns_bind {next : α → Parser β} (hparser : parser.Returns given)
    (hnext : ∀ value, given value → (next value).Returns result) :
    (parser >>= next).Returns result := by
  intro cursor value last hrun
  obtain ⟨found, middle, hfound, hrest⟩ := exists_of_bind hrun
  exact hnext found (hparser cursor found middle hfound) middle value last hrest

/-- What comes first may have any result. -/
theorem returns_of_next {next : α → Parser β} (hnext : ∀ value, (next value).Returns result) :
    (parser >>= next).Returns result := by
  have hparser : parser.Returns fun _ => True := fun _ _ _ _ => trivial
  exact returns_bind hparser fun value _ => hnext value

theorem returns_reject : (reject : Parser α).Returns property := by
  intro cursor value next hrun
  cases hrun

theorem returns_ite {test : Bool} {other : Parser α} (hparser : parser.Returns property)
    (hother : other.Returns property) : (if test then parser else other).Returns property := by
  split
  · exact hparser
  · exact hother

theorem Returns.inGroup (hparser : parser.Returns property) (delimiter : Delimiter) :
    (inGroup delimiter parser).Returns property := by
  intro cursor value next hrun
  unfold Parser.inGroup at hrun
  split at hrun
  · split at hrun
    · split at hrun
      · cases hrun
      · rename_i found left hcontent
        cases hrun
        exact hparser _ _ _ hcontent
    · cases hrun
  · cases hrun

theorem Returns.whileAtMost (helement : element.Returns property) (test : Peek) (bound : Nat) :
    (whileAtMost test element bound).Returns fun values => ∀ value ∈ values, property value := by
  induction bound with
  | zero => exact returns_reject
  | succ bound ih =>
      refine returns_of_next fun holds => ?_
      refine returns_ite ?_ (returns_pure (by simp))
      refine returns_bind helement fun value hvalue => ?_
      refine returns_bind ih fun rest hrest => ?_
      exact returns_pure (List.forall_mem_cons.mpr ⟨hvalue, hrest⟩)

theorem Returns.toEnd (helement : element.Returns property) :
    (toEnd element).Returns fun values => ∀ value ∈ values, property value :=
  returns_of_next fun bound => helement.whileAtMost _ bound

theorem Returns.separatedAtMost (helement : element.Returns property) (stop : Peek)
    (separator : Parser Unit) (bound : Nat) :
    (separatedAtMost stop separator element bound).Returns fun values =>
      ∀ value ∈ values, property value := by
  induction bound with
  | zero => exact returns_reject
  | succ bound ih =>
      refine returns_of_next fun stops => ?_
      refine returns_ite (returns_pure (by simp)) ?_
      refine returns_bind helement fun value hvalue => ?_
      refine returns_of_next fun ends => ?_
      refine returns_ite (returns_pure (by simpa using hvalue)) ?_
      refine returns_of_next fun _ => ?_
      refine returns_bind ih fun rest hrest => ?_
      exact returns_pure (List.forall_mem_cons.mpr ⟨hvalue, hrest⟩)

theorem Returns.commaList (helement : element.Returns property) :
    (commaList element).Returns fun values => ∀ value ∈ values, property value :=
  returns_of_next fun bound => helement.separatedAtMost _ _ bound

end Combinators

end Parser

/-! ## Names -/

/-- An identifier that the language does not keep for itself. -/
def IsName (text : String) : Prop :=
  ∃ name : Ident, name.text = text ∧ text ∉ Peek.reserved

namespace Parser

theorem eq_of_require {test : Peek} {cursor next : Cursor}
    (hrun : require test cursor = .ok ((), next)) : test cursor.ahead = true ∧ next = cursor := by
  obtain ⟨holds, middle, hpeek, hchecked⟩ := exists_of_bind hrun
  cases hpeek
  cases htest : test cursor.ahead with
  | true =>
      rw [htest] at hchecked
      cases hchecked
      exact ⟨rfl, rfl⟩
  | false =>
      rw [htest] at hchecked
      cases hchecked

theorem exists_ident_of_anyWord {cursor next : Cursor} {text : String}
    (hrun : anyWord cursor = .ok (text, next)) :
    ∃ name line rest, cursor.ahead = .leaf (.ident name) line :: rest ∧ text = name.text := by
  unfold anyWord at hrun
  split at hrun
  · rename_i name line rest hahead
    cases hrun
    exact ⟨name, line, rest, hahead, rfl⟩
  · cases hrun

theorem returns_name : name.Returns IsName := by
  intro cursor text next hrun
  obtain ⟨⟨⟩, middle, hrequire, hword⟩ := exists_of_bind hrun
  obtain ⟨htest, rfl⟩ := eq_of_require hrequire
  obtain ⟨found, line, rest, hahead, rfl⟩ := exists_ident_of_anyWord hword
  rw [hahead] at htest
  exact ⟨found, rfl, by simpa [Peek.name] using htest⟩

theorem returns_nameOr (words : List String) :
    (nameOr words).Returns fun text => IsName text ∨ text ∈ words := by
  intro cursor text next hrun
  obtain ⟨holds, middle, hpeek, hword⟩ := exists_of_bind hrun
  cases hpeek
  split at hword
  · rename_i hwords
    obtain ⟨found, line, rest, hahead, rfl⟩ := exists_ident_of_anyWord hword
    rw [hahead] at hwords
    obtain ⟨word, hword, hfound⟩ := List.any_eq_true.mp hwords
    obtain rfl : found.text = word := beq_iff_eq.mp hfound
    exact .inr hword
  · exact .inl (returns_name cursor text next hword)

end Parser

/-! ## Fields, variants and types -/

/-- The names of the variant and of its fields. -/
structure VariantItem.Named (variant : VariantItem) : Prop where
  name : IsName variant.name
  fields : ∀ field ∈ variant.fields.names, IsName field ∨ field = "_"

/-- The names of the type, of its variants and of their fields. -/
structure TypeItem.Named (item : TypeItem) : Prop where
  name : IsName item.name
  variants : ∀ variant ∈ item.variants, variant.Named

/-- The names of the types of an item and of the modules around them. -/
def Item.Named (item : Item) : Prop :=
  ∀ declared ∈ item.types,
    (∀ module ∈ declared.1, IsName module ∨ module = "try") ∧ declared.2.Named

namespace Parser

variable (rules : Rules)

theorem returns_namedField :
    (namedField rules).Returns fun field => IsName field ∨ field = "_" := by
  refine returns_of_next fun _ => returns_of_next fun _ => returns_of_next fun blank => ?_
  refine returns_bind (returns_nameOr ["_"]) fun found hfound => returns_of_next fun _ => ?_
  have hname : IsName found ∨ found = "_" := hfound.imp_right List.mem_singleton.mp
  refine returns_of_next fun nested => returns_ite ?_ ?_
  · exact returns_of_next fun _ => returns_of_next fun _ => returns_pure hname
  · exact returns_of_next fun _ => returns_pure hname

theorem returns_namedFields :
    (namedFields rules).Returns fun fields => ∀ field ∈ fields, IsName field ∨ field = "_" :=
  (returns_namedField rules).commaList.inGroup .brace

theorem returns_variant : (variant rules).Returns VariantItem.Named := by
  refine returns_of_next fun _ => returns_of_next fun _ => returns_of_next fun start => ?_
  refine returns_bind returns_name fun found hfound => returns_of_next fun braces => ?_
  -- A value may follow whatever the fields are.
  have hvalue (fields : Fields) (hfields : ∀ field ∈ fields.names, IsName field ∨ field = "_") :
      (do
        if ← opIf "=" then
          let _ ← rules.expr true
        return { name := found, line := start, fields } : Parser VariantItem).Returns
        VariantItem.Named := by
    have hnamed : VariantItem.Named { name := found, line := start, fields } := ⟨hfound, hfields⟩
    refine returns_of_next fun _ => returns_ite ?_ (returns_pure hnamed)
    exact returns_of_next fun _ => returns_pure hnamed
  refine returns_of_next fun parens => returns_ite ?_ (returns_ite ?_ ?_)
  · exact returns_bind (returns_namedFields rules) fun names hnames => hvalue (.named names) hnames
  · exact returns_of_next fun count => hvalue (.positional count) (by simp [Fields.names])
  · exact hvalue .unit (by simp [Fields.names])

theorem returns_typeHead (kind : Kind) (attributes : List AttributePath) :
    (typeHead rules kind attributes).Returns fun item => IsName item.name ∧ item.variants = [] := by
  refine returns_of_next fun start => returns_bind returns_name fun found hfound => ?_
  exact returns_of_next fun generic => returns_pure ⟨hfound, rfl⟩

/-! ## Items -/

theorem named_type {item : TypeItem} (hitem : item.Named) : (Item.type item).Named := by
  intro declared hdeclared
  obtain rfl := List.mem_singleton.mp hdeclared
  exact ⟨by simp, hitem⟩

theorem named_of_head {item : TypeItem} (hitem : IsName item.name ∧ item.variants = []) :
    item.Named where
  name := hitem.1
  variants := by simp [hitem.2]

theorem named_of_types_eq_nil {item : Item} (hnone : item.types = []) : item.Named := by
  intro declared hdeclared
  rw [hnone] at hdeclared
  cases hdeclared

theorem returns_enumItem (attributes : List AttributePath) :
    (enumItem rules attributes).Returns Item.Named := by
  refine returns_bind (returns_typeHead rules .enum attributes) fun head hhead => ?_
  refine returns_of_next fun _ => ?_
  refine returns_bind ((returns_variant rules).commaList.inGroup .brace)
    fun variants hvariants => ?_
  exact returns_pure (named_type { name := hhead.1, variants := hvariants })

theorem returns_structItem (attributes : List AttributePath) :
    (structItem rules attributes).Returns Item.Named := by
  refine returns_bind (returns_typeHead rules .struct attributes) fun head hhead => ?_
  have hnamed : (pure (.type head) : Parser Item).Returns Item.Named :=
    returns_pure (named_type (named_of_head hhead))
  refine returns_of_next fun bounded => returns_of_next fun tuple => returns_ite ?_ ?_
  · exact returns_of_next fun _ => returns_of_next fun _ => returns_of_next fun _ => hnamed
  · refine returns_of_next fun braces => returns_ite ?_ ?_
    · exact returns_of_next fun _ => hnamed
    · exact returns_of_next fun _ => hnamed

theorem returns_unionItem (attributes : List AttributePath) :
    (unionItem rules attributes).Returns Item.Named := by
  refine returns_bind (returns_typeHead rules .union attributes) fun head hhead => ?_
  refine returns_of_next fun _ => returns_of_next fun _ => ?_
  exact returns_pure (named_type (named_of_head hhead))

theorem returns_aliasRest (place : ClausePlace) (attributes : List AttributePath) :
    (aliasRest rules place attributes).Returns fun head =>
      IsName head.1.name ∧ head.1.variants = [] := by
  refine returns_bind (returns_typeHead rules .typeAlias attributes) fun head hhead => ?_
  refine returns_of_next fun bounded => ?_
  have hplain (defined : Bool) : (pure (head, defined && !bounded) : Parser _).Returns
      fun head => IsName head.1.name ∧ head.1.variants = [] := returns_pure hhead
  -- Each clause may be there or not, and what follows is the same.
  extract_lets definition clause stop
  have hdefinition (early : Bool) : (definition early).Returns fun head =>
      IsName head.1.name ∧ head.1.variants = [] := by
    refine returns_of_next fun defined => returns_ite (returns_of_next fun _ => ?_) ?_
    · exact returns_ite (returns_of_next fun _ => returns_of_next fun _ => hplain defined)
        (returns_of_next fun _ => hplain defined)
    · exact returns_ite (returns_of_next fun _ => returns_of_next fun _ => hplain defined)
        (returns_of_next fun _ => hplain defined)
  have hclause : (clause ()).Returns fun head =>
      IsName head.1.name ∧ head.1.variants = [] :=
    returns_ite (returns_of_next hdefinition) (hdefinition false)
  exact returns_ite (returns_of_next fun _ => hclause) hclause

theorem returns_aliasItem (attributes : List AttributePath) :
    (aliasItem rules attributes).Returns Item.Named := by
  refine returns_bind (returns_aliasRest rules .before attributes) fun (head, plain) hhead => ?_
  cases plain with
  | true => exact returns_pure (named_type (named_of_head hhead))
  | false => exact returns_pure (named_of_types_eq_nil rfl)

theorem returns_traitItem (attributes : List AttributePath) :
    (traitItem rules attributes).Returns Item.Named := by
  refine returns_bind (returns_typeHead rules .trait attributes) fun head hhead => ?_
  refine returns_of_next fun inner => ?_
  exact returns_pure (named_type (named_of_head hhead))

theorem returns_traitOrAlias (attributes : List AttributePath) :
    (traitOrAlias rules attributes).Returns Item.Named := by
  refine returns_bind (returns_typeHead rules .trait attributes) fun head hhead => ?_
  refine returns_of_next fun defined => returns_ite ?_ ?_
  · refine returns_of_next fun _ => returns_of_next fun _ => returns_of_next fun _ => ?_
    exact returns_pure (named_of_types_eq_nil rfl)
  · exact returns_of_next fun inner => returns_pure (named_type (named_of_head hhead))

theorem returns_dropped (parser : Parser Unit) : (dropped parser).Returns Item.Named :=
  returns_of_next fun _ => returns_pure (named_of_types_eq_nil rfl)

theorem named_of_forall {items : List Item} (hitems : ∀ item ∈ items, item.Named) :
    ∀ declared ∈ Item.allTypes items,
      (∀ module ∈ declared.1, IsName module ∨ module = "try") ∧ declared.2.Named := by
  induction items with
  | nil =>
      intro declared hdeclared
      cases hdeclared
  | cons item rest ih =>
      intro declared hdeclared
      obtain ⟨hitem, hrest⟩ := List.forall_mem_cons.mp hitems
      rcases List.mem_append.mp hdeclared with hdeclared | hdeclared
      · exact hitem declared hdeclared
      · exact ih hrest declared hdeclared

section Nested

variable {rules : Rules} (hitem : rules.item.Returns Item.Named)

include hitem

theorem returns_items : (items rules).Returns fun items => ∀ item ∈ items, item.Named :=
  returns_of_next fun _ => hitem.toEnd

theorem returns_moduleRest : (moduleRest rules).Returns Item.Named := by
  refine returns_of_next fun _ => returns_of_next fun _ => ?_
  refine returns_bind (returns_nameOr ["try"]) fun found hfound => ?_
  refine returns_of_next fun outline => returns_ite ?_ ?_
  · exact returns_pure (named_of_types_eq_nil rfl)
  · refine returns_bind ((returns_items hitem).inGroup .brace) fun content hcontent => ?_
    refine returns_pure fun declared hdeclared => ?_
    obtain ⟨inner, hinner, rfl⟩ := List.mem_map.mp hdeclared
    obtain ⟨hmodules, hnamed⟩ := named_of_forall hcontent inner hinner
    refine ⟨List.forall_mem_cons.mpr ⟨?_, hmodules⟩, hnamed⟩
    exact hfound.imp_right List.mem_singleton.mp

omit hitem in
theorem returns_externItem (visible : Bool) (start : Cursor) :
    (externItem rules visible start).Returns Item.Named := by
  refine returns_of_next fun cursor => returns_ite (returns_dropped _) (returns_ite ?_ ?_)
  · exact returns_ite (returns_of_next fun _ => returns_dropped _) (returns_dropped _)
  · exact returns_of_next fun _ => returns_reject

theorem returns_unsafeItem (attributes : List AttributePath) (visible : Bool) (start : Cursor) :
    (unsafeItem rules attributes visible start).Returns Item.Named := by
  refine returns_of_next fun cursor => returns_ite ?_ (returns_ite (returns_dropped _)
    (returns_ite ?_ (returns_ite (returns_moduleRest hitem) ?_)))
  · exact returns_of_next fun _ => returns_of_next fun _ => returns_of_next fun _ =>
      returns_traitItem rules attributes
  · exact returns_ite (returns_of_next fun _ => returns_dropped _) (returns_dropped _)
  · exact returns_of_next fun _ => returns_reject

/-- The rule for an item. -/
theorem returns_itemRule : (itemRule rules).Returns Item.Named := by
  refine returns_of_next fun attributes => returns_of_next fun start => ?_
  refine returns_of_next fun visible => returns_of_next fun cursor => ?_
  refine returns_ite ?function (returns_ite ?foreign ?_)
  case function =>
    refine returns_of_next fun _ => returns_of_next fun _ => returns_ite ?_ (returns_dropped _)
    exact returns_pure (named_of_types_eq_nil rfl)
  case foreign => exact returns_externItem _ _
  refine returns_ite ?imports (returns_ite ?static ?_)
  case imports => exact returns_dropped _
  case static => exact returns_dropped _
  refine returns_of_next fun _ => returns_ite (returns_dropped _) ?_
  refine returns_ite ?guarded (returns_ite ?module ?_)
  case guarded => exact returns_unsafeItem hitem _ _ _
  case module => exact returns_moduleRest hitem
  refine returns_of_next fun _ => returns_ite (returns_aliasItem rules _) ?_
  refine returns_of_next fun _ => returns_ite (returns_structItem rules _) ?_
  refine returns_of_next fun _ => returns_ite (returns_enumItem rules _) ?_
  refine returns_ite ?union ?_
  case union => exact returns_of_next fun _ => returns_unionItem rules _
  refine returns_of_next fun _ => returns_ite (returns_traitOrAlias rules _) ?_
  refine returns_ite ?auto (returns_ite ?implementation (returns_ite ?definition ?_))
  case auto => exact returns_of_next fun _ => returns_of_next fun _ => returns_traitItem rules _
  case implementation => exact returns_dropped _
  case definition => exact returns_dropped _
  exact returns_ite (returns_dropped _) returns_reject

end Nested

end Parser

/-! ## Files -/

theorem returns_level_item (level : Nat) : (Rules.level level).item.Returns Item.Named := by
  induction level with
  | zero => exact Parser.returns_reject
  | succ level ih => exact Parser.returns_itemRule ih

/-- The names of all types of a file, and of the modules around them. -/
theorem named_of_ofSource {source : String} {items : List Item}
    (hread : Item.ofSource source = .ok items) :
    ∀ declared ∈ Item.allTypes items,
      (∀ module ∈ declared.1, IsName module ∨ module = "try") ∧ declared.2.Named := by
  obtain ⟨trees, _, hitems⟩ := bind_eq_ok_iff.mp hread
  unfold Item.ofTrees at hitems
  split at hitems
  · cases hitems
  · rename_i found left hparse
    split at hitems
    · cases hitems
    · cases hitems
      exact Parser.named_of_forall
        (Parser.returns_items (returns_level_item _) _ _ _ hparse)

end EventDispatch.Source
