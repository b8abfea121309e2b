import EventDispatch.Declaration
import EventDispatch.Document.Reader
import EventDispatch.Document.Shape
import EventDispatch.Log

/-!
# Manifests

A manifest is a document that lists declarations.  It is read in two steps: the
document is taken apart into entries as they are written, and the entries are
turned into declarations.  An entry may list itself among its members; that
member is dropped.
-/

namespace EventDispatch

/-! ## Entries -/

namespace Manifest

/-- A member as a manifest writes it. -/
structure MemberEntry where
  name : String
  owner : Option String
  fields : Option (List String)
  positional : Option Nat
  deriving DecidableEq

/-- A declaration as a manifest writes it. -/
structure Entry where
  name : String
  path : Option String
  kind : Kind
  modality : Modality
  markers : List String
  generic : Bool
  members : List MemberEntry
  deriving DecidableEq

/-- The names of the kinds of types. -/
def kindNames : List (String × Kind) :=
  [("enum", .enum), ("struct", .struct), ("trait", .trait), ("union", .union),
    ("type_alias", .typeAlias)]

/-- The names of the modalities. -/
def modalityNames : List (String × Modality) :=
  [("closed", .closed), ("open", .extensible)]

open Document Document.Record

/-- The fields of a member. -/
def memberRecord : Record MemberEntry :=
  MemberEntry.mk <$> required "name" Reading.text
    <*> optional "extends" Reading.text
    <*> optional "fields" (Reading.list Reading.text)
    <*> optional "positional" Reading.count

/-- The fields of a declaration. -/
def entryRecord : Record Entry :=
  Entry.mk <$> required "name" Reading.text
    <*> optional "path" Reading.text
    <*> orElse "kind" (Reading.oneOf kindNames) .enum
    <*> orElse "modality" (Reading.oneOf modalityNames) .closed
    <*> orElse "markers" (Reading.list Reading.text) []
    <*> orElse "generic" Reading.truth false
    <*> orElse "member" (Reading.list (memberRecord.reading "ManifestMember")) []

/-- The entries of a document. -/
def documentRecord : Record (List Entry) :=
  orElse "declaration" (Reading.list (entryRecord.reading "ManifestDeclaration")) []

/-! ## Faults -/

/-- Why a manifest is not taken. -/
inductive Fault where
  | notDocument
  | shape (fault : Document.Fault)
  | conflictingFields (member path : String)
  deriving DecidableEq

/-- The reason of a fault in a text, where it has words of its own. -/
def Fault.reason? (source : String) : Fault → Option String
  | notDocument => none
  | shape fault => some (fault.message source)
  | conflictingFields member path =>
      some ("member " ++ member ++ " of " ++ path ++ " sets both `fields` and `positional`")

/-! ## Conversion -/

namespace Entry

/-- The path of a declaration; its name if nothing else is said. -/
def fullPath (entry : Entry) : String :=
  entry.path.getD entry.name

/-- The members of a declaration without the declaration itself. -/
def ownMembers (entry : Entry) : List MemberEntry :=
  entry.members.filter fun member => member.name != entry.name

end Entry

/-- What a member carries: named fields or a number of fields, not both.  Without
any field it carries nothing. -/
def MemberEntry.carried? (member : MemberEntry) : Option Fields :=
  match member.fields, member.positional with
  | some _, some _ => none
  | some [], none => some .unit
  | some names, none => some (.named names)
  | none, some 0 => some .unit
  | none, some count => some (.positional count)
  | none, none => some .unit

/-- The member of an entry in a file. -/
def MemberEntry.member (file path : String) (entry : MemberEntry) : Except Fault Member :=
  match entry.carried? with
  | some fields =>
      .ok { name := entry.name, parent := entry.owner, fields, origin := { file, line := none } }
  | none => .error (.conflictingFields entry.name path)

/-- The declaration of an entry in a file. -/
def Entry.declaration (file : String) (entry : Entry) : Except Fault Declaration := do
  let members ← entry.ownMembers.mapM (MemberEntry.member file entry.fullPath)
  return {
    name := entry.name
    path := entry.fullPath
    kind := entry.kind
    modality := entry.modality
    markers := entry.markers
    generic := entry.generic
    members
    origin := { file, line := none } }

/-- The entries of a text. -/
def entries (source : String) : Except Fault (List Entry) :=
  match Document.ofText source with
  | none => .error .notDocument
  | some document =>
      match documentRecord.ofTable document with
      | .ok entries => .ok entries
      | .error fault => .error (.shape fault)

/-- The declarations of the manifest in a file. -/
def declarations (file source : String) : Except Fault (List Declaration) := do
  (← entries source).mapM (Entry.declaration file)

/-! ## Records -/

/-- The record of every member that is dropped, as far as members are looked at:
up to the first one that is at fault. -/
def MemberEntry.records (entry : Entry) : List MemberEntry → List Log.Record
  | [] => []
  | member :: rest =>
      if member.name = entry.name then
        .debug ("Dropping " ++ entry.fullPath ++ " from its own member list") ::
          records entry rest
      else if member.carried?.isSome then records entry rest
      else []

/-- The records of the entries up to the first one that is at fault. -/
def entryRecords (file : String) : List Entry → List Log.Record
  | [] => []
  | entry :: rest =>
      MemberEntry.records entry entry.members ++
        (match entry.declaration file with
        | .ok _ => entryRecords file rest
        | .error _ => [])

/-- The records made when the manifest in a file is read. -/
def records (file source : String) : List Log.Record :=
  match entries source with
  | .error _ => []
  | .ok entries =>
      entryRecords file entries ++
        (match declarations file source with
        | .ok found => [.debug s!"Found {found.length} declarations in {file}"]
        | .error _ => [])

end Manifest

end EventDispatch
