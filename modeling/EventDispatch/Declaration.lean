/-!
# Declarations

The common form of a type declaration, whichever input it was read from: what
kind of type it is, where it stands, which markers it carries, and, for an
enumeration, its members.
-/

namespace EventDispatch

/-- What a declaration declares. -/
inductive Kind where
  | enum
  | struct
  | trait
  | union
  | typeAlias
  deriving DecidableEq

/-- The kind in the words of a message. -/
def Kind.describe : Kind → String
  | enum => "enum"
  | struct => "struct"
  | trait => "trait"
  | union => "union"
  | typeAlias => "type alias"

/-- Whether the list of members is final or may grow later. -/
inductive Modality where
  | closed
  | extensible
  deriving DecidableEq

/-- Where something was declared. -/
structure Origin where
  file : String
  line : Option Nat
  deriving DecidableEq

/-- The file, followed by the line when it is known. -/
def Origin.describe (origin : Origin) : String :=
  match origin.line with
  | some line => origin.file ++ ":" ++ toString line
  | none => origin.file

/-- What a member carries. -/
inductive Fields where
  | unit
  | named (names : List String)
  | positional (count : Nat)
  deriving DecidableEq

/-- A member of an enumeration.  Without a parent it belongs to the declaration
that lists it. -/
structure Member where
  name : String
  parent : Option String
  fields : Fields
  origin : Origin
  deriving DecidableEq

/-- A type declaration. -/
structure Declaration where
  name : String
  path : String
  kind : Kind
  modality : Modality
  markers : List String
  generic : Bool
  members : List Member
  origin : Origin
  deriving DecidableEq

namespace Declaration

/-- The declaration carries the marker. -/
def hasMarker (declaration : Declaration) (marker : String) : Bool :=
  declaration.markers.contains marker

/-- The declaration is an enumeration whose members are final. -/
def isClosedSet (declaration : Declaration) : Bool :=
  declaration.kind == .enum && declaration.modality == .closed

end Declaration

end EventDispatch
