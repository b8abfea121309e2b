import EventDispatch.Declaration
import EventDispatch.Diagnostic
import EventDispatch.Name

/-!
# Event sets

An event set is what code is generated for: the members of a closed
enumeration whose fields are named, with the event name of each member and the
parameter key of each field.

`Declaration.judge` decides about one member at a time.  The set, the warnings
and the records of a declaration are all read off these judgements, so that
every member is accounted for once.
-/

namespace EventDispatch

/-- A field of an event: the identifier as declared and the key it is recorded under. -/
structure Field where
  ident : String
  key : String
  deriving DecidableEq

/-- A field with the key derived from its identifier. -/
def Field.ofIdent (ident : String) : Field :=
  { ident, key := Name.paramKey ident }

/-- An event of a set. -/
structure Variant where
  name : String
  eventName : String
  fields : List Field
  deriving DecidableEq

/-- The events of one declaration.  `hasUnlisted` says that the enumeration has
members of its own beside the listed ones. -/
structure EventSet where
  name : String
  path : String
  hasUnlisted : Bool
  variants : List Variant
  deriving DecidableEq

/-- The decision about a member: it belongs elsewhere, its fields have no
names, or it is an event. -/
inductive Judgement where
  | foreign
  | positional (count : Nat)
  | listed (variant : Variant)
  deriving DecidableEq

namespace Declaration

/-- The path of a member. -/
def memberPath (declaration : Declaration) (member : Member) : String :=
  declaration.path ++ "::" ++ member.name

/-- The member belongs to the declaration: it names no parent, or names the
declaration by name or path. -/
def owns (declaration : Declaration) (member : Member) : Bool :=
  match member.parent with
  | none => true
  | some parent => parent == declaration.name || parent == declaration.path

/-- The event of a member with the given field names. -/
def variantOf (member : Member) (names : List String) : Variant where
  name := member.name
  eventName := Name.eventName member.name
  fields := names.map Field.ofIdent

/-- The decision about a member of the declaration. -/
def judge (declaration : Declaration) (member : Member) : Judgement :=
  if declaration.owns member then
    match member.fields with
    | .unit => .listed (variantOf member [])
    | .named names => .listed (variantOf member names)
    | .positional count => .positional count
  else .foreign

/-! ## What follows from the judgements -/

/-- The events of the declaration, in member order. -/
def variants (declaration : Declaration) : List Variant :=
  declaration.members.filterMap fun member =>
    match declaration.judge member with
    | .listed variant => some variant
    | _ => none

/-- Some member of its own has fields without names. -/
def hasUnlisted (declaration : Declaration) : Bool :=
  declaration.members.any fun member =>
    match declaration.judge member with
    | .positional _ => true
    | _ => false

/-- The event set of the declaration, unless no member is an event. -/
def eventSet? (declaration : Declaration) : Option EventSet :=
  if declaration.variants.isEmpty then none
  else
    some {
      name := declaration.name
      path := declaration.path
      hasUnlisted := declaration.hasUnlisted
      variants := declaration.variants }

/-- The warning about a member that belongs to another declaration. -/
def foreignWarning (declaration : Declaration) (member : Member) : Diagnostic :=
  .warning (declaration.memberPath member) (some member.origin.describe)
    s!"`{member.name}` does not extend from `{declaration.path}`, skipping"

/-- The warning about a member whose fields have no names. -/
def positionalWarning (declaration : Declaration) (member : Member) (count : Nat) : Diagnostic :=
  .warning (declaration.memberPath member) (some member.origin.describe)
    (s!"`{declaration.memberPath member}` has {count} positional field(s) and " ++
      "no named fields, skipping")

/-- The warning about a member that is not an event. -/
def memberWarning? (declaration : Declaration) (member : Member) : Option Diagnostic :=
  match declaration.judge member with
  | .listed _ => none
  | .foreign => some (declaration.foreignWarning member)
  | .positional count => some (declaration.positionalWarning member count)

/-- The warning about a declaration without any event. -/
def emptyWarning? (declaration : Declaration) : Option Diagnostic :=
  if declaration.variants.isEmpty then
    some (.warning declaration.path (some declaration.origin.describe)
      s!"`{declaration.path}` has no valid variants, skipping")
  else none

/-- The warnings about members in member order, then the one about the declaration. -/
def eventSetWarnings (declaration : Declaration) : List Diagnostic :=
  declaration.members.filterMap declaration.memberWarning? ++ declaration.emptyWarning?.toList

/-- The record made about a member: the event it became, or its warning. -/
def memberRecord (declaration : Declaration) (member : Member) : Log.Record :=
  match declaration.judge member with
  | .listed variant =>
      .debug s!"Variant {declaration.memberPath member} with {variant.fields.length} field(s)"
  | .foreign => (declaration.foreignWarning member).record
  | .positional count => (declaration.positionalWarning member count).record

/-- The records made while the members are judged. -/
def eventSetRecords (declaration : Declaration) : List Log.Record :=
  declaration.members.map declaration.memberRecord ++
    declaration.emptyWarning?.toList.map Diagnostic.record

end Declaration

end EventDispatch
