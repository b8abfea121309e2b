import EventDispatch.Text.LetterCase

/-!
# Derived names

Event names, parameter keys and file stems are derived from the identifiers of
a declaration by one conversion, `Name.snakeCase`: a capital is written in
lower case, with an underscore in front unless it opens the name or an
underscore is already there; every other character is kept.  A raw identifier
(`r#type`) is converted without its marker.
-/

namespace EventDispatch.Name

open Text.LetterCase

/-! ## Raw identifiers -/

/-- The characters of an identifier without a leading raw marker. -/
def unrawChars : List Char → List Char
  | 'r' :: '#' :: rest => rest
  | name => name

/-- An identifier without a leading raw marker. -/
def unraw (name : String) : String :=
  String.ofList (unrawChars name.toList)

/-! ## The conversion -/

/-- Adds one character of an identifier to the part converted so far. -/
def appendSnake (converted : List Char) (c : Char) : List Char :=
  if isUppercase c then
    if converted.isEmpty || converted.getLast? == some '_' then converted ++ lowercase c
    else converted ++ '_' :: lowercase c
  else converted ++ [c]

/-- The characters of an identifier in snake case. -/
def snakeChars (name : List Char) : List Char :=
  (unrawChars name).foldl appendSnake []

/-- An identifier in snake case. -/
def snakeCase (name : String) : String :=
  String.ofList (snakeChars name.toList)

/-- The identifier, its raw marker aside, has no capital. -/
def isSnakeCase (name : String) : Bool :=
  !(unrawChars name.toList).any isUppercase

/-- The name under which an event variant is recorded. -/
def eventName (variant : String) : String :=
  snakeCase variant

/-- The key under which a field is recorded. -/
def paramKey (field : String) : String :=
  snakeCase field

/-! ## Paths -/

/-- The pieces of a text between its double colons, read from the left. -/
def splitPath : List Char → List (List Char)
  | [] => [[]]
  | ':' :: ':' :: rest => [] :: splitPath rest
  | c :: rest =>
      match splitPath rest with
      | [] => [[c]]
      | piece :: pieces => (c :: piece) :: pieces

/-- The segments of a path that tell it apart from others of the crate: neither
empty, nor `crate`, nor `self`. -/
def distinctiveSegments (path : String) : List String :=
  ((splitPath path.toList).map String.ofList).filter
    fun segment => segment != "" && segment != "crate" && segment != "self"

/-- A file stem that names a declaration by its whole path. -/
def qualifiedStem (path : String) : String :=
  "__".intercalate ((distinctiveSegments path).map snakeCase)

/-- A name behind the path of the module that holds it; the root has an empty path. -/
def inModule (module name : String) : String :=
  if module = "" then name else module ++ "::" ++ name

end EventDispatch.Name
