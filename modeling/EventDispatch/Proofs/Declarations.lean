import EventDispatch.Source.Declarations

/-!
# Which types a source file declares

A file declares the types of its items, each in the inline modules around it.
`Item.allTypes` lists them with the names of these modules, and the declarations
of the file are made from this list one by one (`allDeclarations_eq_map`).
-/

namespace EventDispatch.Source

namespace Item

mutual

/-- The types of an item, each with the names of the inline modules around it. -/
def types : Item → List (List String × TypeItem)
  | .type item => [([], item)]
  | .inlineModule name items => (allTypes items).map fun (names, item) => (name :: names, item)
  | .outlineModule _ => []
  | .other => []

/-- The types of the items of a module, in source order. -/
def allTypes : List Item → List (List String × TypeItem)
  | [] => []
  | item :: rest => types item ++ allTypes rest

end

mutual

theorem declarations_eq_map (file : String) : ∀ (module : String) (item : Item),
    declarations file module item = item.types.map fun (names, item) =>
      item.declaration file (names.foldl Name.inModule module)
  | module, .type item => rfl
  | module, .inlineModule name items => by
      rw [declarations, allDeclarations_eq_map, types, List.map_map]
      rfl
  | module, .outlineModule name => rfl
  | module, .other => rfl

/-- The declarations of a file are those of its types, each in its own module. -/
theorem allDeclarations_eq_map (file : String) : ∀ (module : String) (items : List Item),
    allDeclarations file module items = (allTypes items).map fun (names, item) =>
      item.declaration file (names.foldl Name.inModule module)
  | module, [] => rfl
  | module, item :: rest => by
      rw [allDeclarations, declarations_eq_map, allDeclarations_eq_map, allTypes, List.map_append]

end

end Item

end EventDispatch.Source
