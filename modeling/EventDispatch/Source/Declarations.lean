import EventDispatch.Declaration
import EventDispatch.Log
import EventDispatch.Name
import EventDispatch.Source.File

/-!
# Declarations of a source file

A source file declares the types of its items and, below their names, those of
its inline modules.  `Item.declarations` walks the items; the module path in
front of every declaration is the one of the file followed by the names of the
enclosing modules.
-/

namespace EventDispatch.Source

/-- The name under which an attribute marks a declaration: its last segment. -/
def AttributePath.marker? (path : AttributePath) : Option String :=
  path.segments.getLast?

/-- The attribute that leaves the list of variants open. -/
def AttributePath.isNonExhaustive (path : AttributePath) : Bool :=
  !path.rooted && path.segments == ["non_exhaustive"]

/-- The member that a variant declares. -/
def VariantItem.member (file : String) (variant : VariantItem) : Member where
  name := variant.name
  parent := none
  fields := variant.fields
  origin := { file, line := some variant.line }

/-- Only an enumeration without the attribute to the contrary is closed. -/
def TypeItem.modality (item : TypeItem) : Modality :=
  if item.kind = .enum && !item.attributes.any AttributePath.isNonExhaustive then .closed
  else .extensible

/-- The declaration of a type item in a module. -/
def TypeItem.declaration (file module : String) (item : TypeItem) : Declaration where
  name := item.name
  path := Name.inModule module item.name
  kind := item.kind
  modality := item.modality
  markers := item.attributes.filterMap AttributePath.marker?
  generic := item.generic
  members := item.variants.map (VariantItem.member file)
  origin := { file, line := some item.line }

namespace Item

mutual

/-- The declarations of an item in a module. -/
def declarations (file module : String) : Item → List Declaration
  | .type item => [item.declaration file module]
  | .inlineModule name items => allDeclarations file (Name.inModule module name) items
  | .outlineModule _ => []
  | .other => []

/-- The declarations of the items of a module, in source order. -/
def allDeclarations (file module : String) : List Item → List Declaration
  | [] => []
  | item :: rest => declarations file module item ++ allDeclarations file module rest

end

mutual

/-- The modules whose items stand in other files, in source order. -/
def outlineModules : Item → List String
  | .inlineModule _ items => allOutlineModules items
  | .outlineModule name => [name]
  | _ => []

/-- The modules of the items whose own items stand in other files. -/
def allOutlineModules : List Item → List String
  | [] => []
  | item :: rest => outlineModules item ++ allOutlineModules rest

end

/-- The records made when the items of a file have been walked. -/
def records (file module : String) (items : List Item) : List Log.Record :=
  let count := (allDeclarations file module items).length
  let shown := if module = "" then "<root>" else module
  (allOutlineModules items).map
      (fun name => .trace s!"Skipping out-of-line module {name} in {file}") ++
    [.debug s!"Found {count} declarations in {file} (module {shown})"]

end Item

end EventDispatch.Source
