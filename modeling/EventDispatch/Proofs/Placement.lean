import EventDispatch.Generator
import EventDispatch.Proofs.Items
import EventDispatch.Proofs.Lexeme

/-!
# Where the types of a file stand

A type stands at file level or in inline modules, one in the other.  Its address tells where:
the positions of the modules, from the outside in, and its own position among the items of the
innermost one (`Item.StandsAt`).  Nothing stands in a function, in an implementation or in a
module that is another file, for such an item is no way in.

Addresses are compared from the left, which is the order in which the types are written.  The
declarations of a file go through the types in this order and meet each of them once
(`listsTypes_places`).  The path of a declaration is put together level by level on the way
in; it is the module of the file, the names of the modules and the name of the type, with
double colons in between, because no module has an empty name (`inModule_foldl`).
-/

namespace EventDispatch

open Source (Item TypeItem)

namespace Source

/-! ## Addresses -/

/-- The type stands among the items at the address, in inline modules of the names. -/
inductive Item.StandsAt : List Item → List Nat → List String → TypeItem → Prop where
  | here {items : List Item} {position : Nat} {item : TypeItem}
      (hitem : items[position]? = some (.type item)) : StandsAt items [position] [] item
  | inside {items inner : List Item} {position : Nat} {name : String} {address : List Nat}
      {modules : List String} {item : TypeItem}
      (hmodule : items[position]? = some (.inlineModule name inner))
      (hinner : StandsAt inner address modules item) :
      StandsAt items (position :: address) (name :: modules) item

/-- A type with its address and the names of the modules around it. -/
structure Place where
  address : List Nat
  modules : List String
  item : TypeItem

/-- The place as it is seen from outside of a module. -/
def Place.within (position : Nat) (name : String) (place : Place) : Place :=
  { place with address := position :: place.address, modules := name :: place.modules }

/-- The places of all types among the items, each once, in the order of their addresses. -/
structure Item.ListsTypes (items : List Item) (places : List Place) : Prop where
  mem_iff : ∀ place, place ∈ places ↔ StandsAt items place.address place.modules place.item
  sorted : places.Pairwise fun first second => first.address < second.address

namespace Item

mutual

/-- The places of the types of the item at a position. -/
def placesAt (position : Nat) : Item → List Place
  | .type item => [{ address := [position], modules := [], item }]
  | .inlineModule name items => (placesFrom 0 items).map (Place.within position name)
  | .outlineModule _ => []
  | .other => []

/-- The places of the types of the items from a position on. -/
def placesFrom (position : Nat) : List Item → List Place
  | [] => []
  | item :: rest => placesAt position item ++ placesFrom (position + 1) rest

end

mutual

theorem map_placesAt (position : Nat) : ∀ item : Item,
    (placesAt position item).map (fun place => (place.modules, place.item)) = item.types
  | .type item => rfl
  | .inlineModule name items => by
      rw [placesAt, types, ← map_placesFrom 0 items, List.map_map, List.map_map]
      rfl
  | .outlineModule name => rfl
  | .other => rfl

/-- Without their addresses the places are the types of the items. -/
theorem map_placesFrom (position : Nat) : ∀ items : List Item,
    (placesFrom position items).map (fun place => (place.modules, place.item)) = allTypes items
  | [] => rfl
  | item :: rest => by
      rw [placesFrom, List.map_append, map_placesAt, map_placesFrom, allTypes]

end

/-! ## Each type once -/

theorem address_of_mem_placesAt {position : Nat} {item : Item} {place : Place}
    (hplace : place ∈ placesAt position item) : ∃ inner, place.address = position :: inner := by
  cases item with
  | type item =>
      obtain rfl := List.mem_singleton.mp hplace
      exact ⟨[], rfl⟩
  | inlineModule name items =>
      obtain ⟨inner, _, rfl⟩ := List.mem_map.mp hplace
      exact ⟨inner.address, rfl⟩
  | outlineModule name => cases hplace
  | other => cases hplace

theorem address_of_mem_placesFrom {position : Nat} {items : List Item} {place : Place}
    (hplace : place ∈ placesFrom position items) :
    ∃ first inner, position ≤ first ∧ place.address = first :: inner := by
  induction items generalizing position with
  | nil => cases hplace
  | cons item rest ih =>
      rcases List.mem_append.mp hplace with hplace | hplace
      · obtain ⟨inner, haddress⟩ := address_of_mem_placesAt hplace
        exact ⟨position, inner, Nat.le_refl _, haddress⟩
      · obtain ⟨first, inner, hle, haddress⟩ := ih hplace
        exact ⟨first, inner, by omega, haddress⟩

mutual

theorem sorted_placesAt (position : Nat) : ∀ item : Item,
    (placesAt position item).Pairwise fun first second => first.address < second.address
  | .type item => List.pairwise_singleton _ _
  | .inlineModule name items => by
      rw [placesAt, List.pairwise_map]
      exact (sorted_placesFrom 0 items).imp fun hlt => List.cons_lt_cons_iff.mpr (.inr ⟨rfl, hlt⟩)
  | .outlineModule name => .nil
  | .other => .nil

/-- The places stand in the order of their addresses, none of them twice. -/
theorem sorted_placesFrom (position : Nat) : ∀ items : List Item,
    (placesFrom position items).Pairwise fun first second => first.address < second.address
  | [] => .nil
  | item :: rest => by
      rw [placesFrom, List.pairwise_append]
      refine ⟨sorted_placesAt position item, sorted_placesFrom (position + 1) rest, ?_⟩
      intro first hfirst second hsecond
      obtain ⟨inner, haddress⟩ := address_of_mem_placesAt hfirst
      obtain ⟨next, others, hle, hother⟩ := address_of_mem_placesFrom hsecond
      rw [haddress, hother]
      exact List.cons_lt_cons_iff.mpr (.inl (by omega))

end

/-! ## Each type that there is -/

mutual

theorem standsAt_of_mem_placesAt : ∀ (item : Item) {items : List Item} {position : Nat}
    {place : Place}, items[position]? = some item → place ∈ placesAt position item →
      StandsAt items place.address place.modules place.item
  | .type item, items, position, place, hitem, hplace => by
      obtain rfl := List.mem_singleton.mp hplace
      exact .here hitem
  | .inlineModule name inner, items, position, place, hitem, hplace => by
      obtain ⟨found, hfound, rfl⟩ := List.mem_map.mp hplace
      exact .inside hitem (standsAt_of_mem_placesFrom inner rfl hfound)
  | .outlineModule name, items, position, place, hitem, hplace => by cases hplace
  | .other, items, position, place, hitem, hplace => by cases hplace

/-- Where a list says that a type stands, it does. -/
theorem standsAt_of_mem_placesFrom : ∀ (rest : List Item) {items : List Item} {position : Nat}
    {place : Place}, items.drop position = rest → place ∈ placesFrom position rest →
      StandsAt items place.address place.modules place.item
  | [], items, position, place, hrest, hplace => by cases hplace
  | item :: rest, items, position, place, hrest, hplace => by
      rcases List.mem_append.mp hplace with hplace | hplace
      · have hitem : items[position]? = some item := by
          rw [← List.head?_drop, hrest, List.head?_cons]
        exact standsAt_of_mem_placesAt item hitem hplace
      · have hothers : items.drop (position + 1) = rest := by
          rw [← List.tail_drop, hrest, List.tail_cons]
        exact standsAt_of_mem_placesFrom rest hothers hplace

end

theorem mem_placesFrom_of_getElem? {items : List Item} {start index : Nat} {item : Item}
    {place : Place} (hitem : items[index]? = some item)
    (hplace : place ∈ placesAt (start + index) item) : place ∈ placesFrom start items := by
  induction items generalizing start index with
  | nil => cases hitem
  | cons first rest ih =>
      rw [placesFrom, List.mem_append]
      cases index with
      | zero =>
          cases hitem
          exact .inl hplace
      | succ index =>
          rw [List.getElem?_cons_succ] at hitem
          rw [← Nat.add_assoc, Nat.add_right_comm] at hplace
          exact .inr (ih hitem hplace)

/-- Every type that stands among the items is listed.  The induction is on the modules around
it, from the inside out. -/
theorem mem_placesFrom_of_standsAt {items : List Item} {address : List Nat} {modules : List String}
    {item : TypeItem} (hstands : StandsAt items address modules item) :
    { address, modules, item } ∈ placesFrom 0 items := by
  induction hstands with
  | here hitem =>
      refine mem_placesFrom_of_getElem? hitem ?_
      rw [Nat.zero_add]
      exact List.mem_singleton_self _
  | inside hmodule _ ih =>
      refine mem_placesFrom_of_getElem? hmodule ?_
      rw [Nat.zero_add]
      exact List.mem_map_of_mem ih

theorem listsTypes_places (items : List Item) : ListsTypes items (placesFrom 0 items) where
  mem_iff _ := ⟨standsAt_of_mem_placesFrom items rfl, mem_placesFrom_of_standsAt⟩
  sorted := sorted_placesFrom 0 items

end Item

/-! ## Paths -/

/-- The parts of the path of a module: none if it is the root. -/
def moduleParts (module : String) : List String :=
  if module = "" then [] else [module]

/-- The path of a type: the module of its file, the modules around it from the outside in, and
its own name. -/
def Place.path (module : String) (place : Place) : String :=
  "::".intercalate (moduleParts module ++ place.modules ++ [place.item.name])

/-- Two parts of a path may be joined first. -/
theorem intercalate_joined (first second : String) (rest : List String) :
    "::".intercalate ((first ++ "::" ++ second) :: rest) =
      "::".intercalate (first :: second :: rest) := by
  cases rest with
  | nil => simp [String.intercalate_cons_cons]
  | cons next others => simp [String.intercalate_cons_cons, String.append_assoc]

/-- Level by level the same path comes about.  The induction is on the modules from the outside
in; no name is empty, so that none is taken for the root. -/
theorem inModule_foldl (names : List String) :
    ∀ (module name : String), (∀ name ∈ names, name ≠ "") →
      Name.inModule (names.foldl Name.inModule module) name =
        "::".intercalate (moduleParts module ++ names ++ [name]) := by
  induction names with
  | nil =>
      intro module name _
      unfold moduleParts
      rw [List.foldl_nil, Name.inModule]
      split
      · rfl
      · simp [String.intercalate_cons_cons]
  | cons first rest ih =>
      intro module name hnames
      obtain ⟨hfirst, hrest⟩ := List.forall_mem_cons.mp hnames
      have hnested : Name.inModule module first ≠ "" := by
        unfold Name.inModule
        split
        · exact hfirst
        · simp
      rw [List.foldl_cons, ih _ name hrest, moduleParts, if_neg hnested, moduleParts, Name.inModule]
      split
      · rfl
      · simp only [List.cons_append, List.nil_append]
        exact intercalate_joined module first (rest ++ [name])

theorem path_eq {module : String} (hmodule : module ≠ "") (place : Place) :
    place.path module = module ++ "::" ++ place.path "" := by
  have hroot : moduleParts "" = [] := if_pos rfl
  rw [Place.path, Place.path, moduleParts, if_neg hmodule, hroot]
  obtain ⟨first, rest, hparts⟩ := List.exists_cons_of_ne_nil
    (List.append_ne_nil_of_right_ne_nil place.modules (List.cons_ne_nil place.item.name []))
  simp only [List.cons_append, List.nil_append, hparts, String.intercalate_cons_cons,
    String.append_assoc]

theorem ne_empty_of_isName {text : String} (hname : IsName text) : text ≠ "" := by
  obtain ⟨name, rfl, -⟩ := hname
  intro hempty
  have hpos := name.length_pos
  rw [hempty] at hpos
  exact absurd hpos (by decide)

/-- The modules of a file that is read have names. -/
theorem ne_empty_of_mem_modules {source : String} {items : List Item}
    (hitems : Item.ofSource source = .ok items) {place : Place}
    (hplace : place ∈ Item.placesFrom 0 items) : ∀ name ∈ place.modules, name ≠ "" := by
  intro name hname
  have hdeclared : (place.modules, place.item) ∈ Item.allTypes items := by
    rw [← Item.map_placesFrom 0 items]
    exact List.mem_map_of_mem hplace
  rcases (named_of_ofSource hitems _ hdeclared).1 name hname with hname | rfl
  · exact ne_empty_of_isName hname
  · decide

/-- The declaration of the type at a place, in a file whose module has a path. -/
def Place.declaration (file module : String) (place : Place) : Declaration :=
  { place.item.declaration file "" with path := place.path module }

theorem allDeclarations_eq_map_places {source : String} {items : List Item}
    (hitems : Item.ofSource source = .ok items) (file module : String) :
    Item.allDeclarations file module items =
      (Item.placesFrom 0 items).map (Place.declaration file module) := by
  rw [Item.allDeclarations_eq_map, ← Item.map_placesFrom 0 items, List.map_map]
  refine List.map_congr_left fun place hplace => ?_
  have hpath := inModule_foldl place.modules module place.item.name
    (ne_empty_of_mem_modules hitems hplace)
  rw [Function.comp_apply, Place.declaration, Place.path, ← hpath]
  rfl

end Source

open Source in
/-- A source text that can be read declares the types that stand at file level or in inline
modules, each once and in order, and nothing else; each is named by the module of the file, the
modules around it and its own name.  In a module the declarations are those at the root with
the module in front of their paths. -/
theorem Generator.readSource_declares {source : String} {items : List Item}
    (hitems : Item.ofSource source = .ok items) (origin : String) :
    ∃ places, Item.ListsTypes items places ∧
      (∀ module, (readSource source origin module).result =
        .ok (places.map (Place.declaration origin module))) ∧
      ∀ module, module ≠ "" → (readSource source origin module).result =
        (readSource source origin "").result.map (List.map fun declaration =>
          { declaration with path := module ++ "::" ++ declaration.path }) := by
  have hresult : ∀ module, (readSource source origin module).result =
      .ok ((Item.placesFrom 0 items).map (Place.declaration origin module)) := by
    intro module
    rw [readSource, hitems, ← allDeclarations_eq_map_places hitems]
  refine ⟨Item.placesFrom 0 items, Item.listsTypes_places items, hresult, ?_⟩
  intro module hmodule
  rw [hresult, hresult, Except.map, List.map_map]
  refine congrArg Except.ok (List.map_congr_left fun place _ => ?_)
  rw [Function.comp_apply, Place.declaration, path_eq hmodule]
  rfl

/-- Types in modules in one another, behind a module and around a function with a type. -/
def nestedSource : String :=
  "mod a \x7b enum E\x7b\x7d mod r#b \x7b struct S; \x7d fn f() \x7b enum X\x7b\x7d \x7d " ++
    "trait T\x7b\x7d \x7d mod c; type U = u8;"

open Source in
theorem readSource_nested : ∃ items places, Item.ofSource nestedSource = .ok items ∧
    Item.ListsTypes items places ∧
      places.map (Place.path "ui") = ["ui::a::E", "ui::a::r#b::S", "ui::a::T", "ui::U"] := by
  have hpaths : (Generator.readSource nestedSource "nested.rs" "ui").result.map
      (List.map Declaration.path) =
        .ok ["ui::a::E", "ui::a::r#b::S", "ui::a::T", "ui::U"] := by
    decide +kernel
  cases hitems : Item.ofSource nestedSource with
  | error line =>
      rw [Generator.readSource, hitems] at hpaths
      cases hpaths
  | ok items =>
      obtain ⟨places, hlists, hresult, -⟩ := Generator.readSource_declares hitems "nested.rs"
      rw [hresult, Except.map, Except.ok.injEq, List.map_map] at hpaths
      exact ⟨items, places, rfl, hlists, hpaths⟩

end EventDispatch
