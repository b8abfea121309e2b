import EventDispatch.FileStore
import EventDispatch.Path

/-!
# File trees

A file tree is a file store as a value: files and directories at locations below
a root, and the location that relative paths start from.  A path is followed
piece by piece, and every piece but the last must lead to a directory.
-/

namespace EventDispatch

/-- What lies at a location. -/
inductive FileNode where
  | directory
  | file (content : ByteArray)

/-- The names that lead from the root to a node. -/
abbrev Location := List String

/-- Nodes by location, and the location of the working directory. -/
structure FileTree where
  nodes : List (Location × FileNode)
  here : Location

namespace FileTree

/-! ## Nodes -/

/-- The node at a location.  The root is a directory. -/
def get? (tree : FileTree) (location : Location) : Option FileNode :=
  if location.isEmpty then some .directory else tree.nodes.lookup location

/-- Puts a node at a location in a list of nodes. -/
def place (location : Location) (node : FileNode) :
    List (Location × FileNode) → List (Location × FileNode)
  | [] => [(location, node)]
  | entry :: rest =>
      if entry.1 = location then (location, node) :: rest else entry :: place location node rest

/-- The tree with a node at a location. -/
def put (tree : FileTree) (location : Location) (node : FileNode) : FileTree :=
  { tree with nodes := place location node tree.nodes }

/-- The files at and below a location, with the names that lead to them from there. -/
def filesBelow (tree : FileTree) (location : Location) : List (Location × ByteArray) :=
  tree.nodes.filterMap fun (place, node) =>
    match node with
    | .directory => none
    | .file content =>
        if location.isPrefixOf place then some (place.drop location.length, content) else none

/-! ## Following paths -/

/-- The most bytes of a name. -/
def nameLimit : Nat := 255

/-- The most bytes of a path. -/
def pathLimit : Nat := 4095

/-- Follows one name from a location, which must be a directory. -/
def step (tree : FileTree) (here : Location) (name : String) : Except FileFault Location :=
  match tree.get? here with
  | none => .error .notFound
  | some (.file _) => .error .notDirectory
  | some .directory =>
      if name = "." then .ok here
      else if name = ".." then .ok here.dropLast
      else if nameLimit < name.utf8ByteSize then .error .nameTooLong
      else if (tree.get? (here ++ [name])).isSome then .ok (here ++ [name])
      else .error .notFound

/-- Follows names from a location. -/
def follow (tree : FileTree) (start : Location) (names : List String) :
    Except FileFault Location :=
  names.foldlM tree.step start

/-- Where a path starts and the names in it, if it is fit to be followed. -/
def route (tree : FileTree) (path : String) : Except FileFault (Location × List String) :=
  if path.toList.contains '\x00' then .error .nulInPath
  else if path = "" then .error .notFound
  else if pathLimit < path.utf8ByteSize then .error .nameTooLong
  else
    let names := ((Path.pieces path).filter fun piece => !piece.isEmpty).map String.ofList
    .ok (if Path.isAbsolute path then [] else tree.here, names)

/-- The location that a path leads to.  Behind a slash at its end a directory must lie. -/
def locate (tree : FileTree) (path : String) : Except FileFault Location := do
  let (start, names) ← tree.route path
  tree.follow start (if Path.endsInSlash path then names ++ ["."] else names)

/-- The directory at the end of a path but for its last name, and that name, which
is `none` when the path ends at the root or steps back. -/
def locateLast (tree : FileTree) (path : String) :
    Except FileFault (Location × Option String) := do
  let (start, names) ← tree.route path
  match names.getLast? with
  | none => return (start, none)
  | some last =>
      let directory ← tree.follow start names.dropLast
      let _ ← tree.step directory "."
      return (directory, if last = "." || last = ".." then none else some last)

/-- The location of a name in a directory. -/
def child (directory : Location) (name : String) : Except FileFault Location :=
  if nameLimit < name.utf8ByteSize then .error .nameTooLong else .ok (directory ++ [name])

/-! ## Operations -/

/-- The text of the file at a path. -/
def read (tree : FileTree) (path : String) : Except FileFault String := do
  match tree.get? (← tree.locate path) with
  | none => .error .notFound
  | some .directory => .error .isDirectory
  | some (.file content) =>
      match String.fromUTF8? content with
      | some text => .ok text
      | none => .error .notText

/-- A directory lies at the path. -/
def isDirectory (tree : FileTree) (path : String) : Bool :=
  match tree.locate path with
  | .error _ => false
  | .ok location =>
      match tree.get? location with
      | some .directory => true
      | _ => false

/-- The tree with a new directory at a path. -/
def makeDirectory (tree : FileTree) (path : String) : Except FileFault FileTree := do
  match ← tree.locateLast path with
  | (_, none) => .error .alreadyExists
  | (directory, some name) =>
      let location ← child directory name
      if (tree.get? location).isSome then .error .alreadyExists
      else .ok (tree.put location .directory)

/-- The tree with a directory at a path, unless one is there already. -/
def ensureDirectory (tree : FileTree) (path : String) : FileTree × Except FileFault Unit :=
  match tree.makeDirectory path with
  | .ok tree => (tree, .ok ())
  | .error fault => (tree, if tree.isDirectory path then .ok () else .error fault)

/-- Makes the directory at a path.  Where the one above it is not there, it is
made first; the bound is the number of directories to look at. -/
def makeAll : Nat → FileTree → String → FileTree × Except FileFault Unit
  | 0, tree, _ => (tree, .error .notFound)
  | bound + 1, tree, path =>
      if path = "" then (tree, .ok ())
      else
        match tree.makeDirectory path with
        | .ok tree => (tree, .ok ())
        | .error .notFound =>
            match Path.parent? path with
            | none => (tree, .error .notFound)
            | some parent =>
                match makeAll bound tree parent with
                | (tree, .error fault) => (tree, .error fault)
                | (tree, .ok ()) => tree.ensureDirectory path
        | .error fault => (tree, if tree.isDirectory path then .ok () else .error fault)

/-- Makes the directory at a path and those above it. -/
def makeDirectories (tree : FileTree) (path : String) : FileTree × Except FileFault Unit :=
  makeAll (path.length + 1) tree path

/-- The tree with a text as the whole content of the file at a path. -/
def write (tree : FileTree) (path text : String) : Except FileFault FileTree := do
  match ← tree.locateLast path with
  | (_, none) => .error .isDirectory
  | (directory, some name) =>
      if Path.endsInSlash path then .error .isDirectory
      else
        let location ← child directory name
        match tree.get? location with
        | some .directory => .error .isDirectory
        | _ => .ok (tree.put location (.file text.toUTF8))

/-- Operations on a tree that is passed along. -/
instance : FileStore (StateM FileTree) where
  read path := fun tree => (tree.read path, tree)
  makeDirectories path := fun tree =>
    let (tree, result) := tree.makeDirectories path
    (result, tree)
  write path text := fun tree =>
    match tree.write path text with
    | .ok tree => (.ok (), tree)
    | .error fault => (.error fault, tree)

end FileTree

end EventDispatch
