import QuoteLint.Path

/-! A tree of files, directories and symbolic links, and how paths are looked up in it. Files and
directories may refuse themselves: a file that cannot be read and a directory that cannot be listed
hold the text of the system's error. -/

namespace QuoteLint

inductive Node where
  | file (contents : Except String ByteArray)
  | directory (entries : List (Name × Node)) (fault : Option String)
  | link (target : Path)

/-- The names that lead from the root of a tree to a place in it, through no link. -/
abbrev Location := List Name

namespace Node

def ofText (text : String) : Node := .file (.ok text.toUTF8)

def ofBytes (bytes : ByteArray) : Node := .file (.ok bytes)

def ofEntries (entries : List (Name × Node)) : Node := .directory entries none

def emptyDirectory : Node := .ofEntries []

def entries : Node → List (Name × Node)
  | .directory entries _ => entries
  | _ => []

def isDirectory : Node → Bool
  | .directory _ _ => true
  | _ => false

def isFile : Node → Bool
  | .file _ => true
  | _ => false

def at? (node : Node) : Location → Option Node
  | [] => some node
  | name :: rest => (node.entries.lookup name).bind (at? · rest)

def isDirectoryAt (node : Node) (place : Location) : Bool := (node.at? place).any isDirectory

def put (node new : Node) : Location → Node
  | [] => new
  | name :: rest =>
    let child := (node.entries.lookup name).getD emptyDirectory
    .ofEntries ((node.entries.filter (·.1 != name)) ++ [(name, put child new rest)])

end Node

inductive Progress where
  | arrived (place : Location)
  | linked (place : Location) (target : Path) (rest : List Component)
  | missing

structure FileTree where
  root : Node
  current : Location

namespace FileTree

def advance (root : Node) : Location → List Component → Progress
  | place, [] => .arrived place
  | _, .root :: rest => advance root [] rest
  | place, .here :: rest => if root.isDirectoryAt place then advance root place rest else .missing
  | place, .up :: rest =>
    if root.isDirectoryAt place then advance root place.dropLast rest else .missing
  | place, .name name :: rest =>
    match ((root.at? place).map Node.entries).bind (·.lookup name) with
    | some (.link target) => .linked place target rest
    | some _ => advance root (place ++ [name]) rest
    | none => .missing

def resolveWithin (root : Node) : Nat → Location → List Component → Option Location
  | links, place, steps =>
    match advance root place steps with
    | .arrived place => some place
    | .missing => none
    | .linked place target rest =>
      match links with
      | 0 => none
      | links + 1 => resolveWithin root links place (target.steps ++ rest)

def maxLinks : Nat := 40

/-- The place that a path leads to. The empty path leads nowhere, and so does one that is too
long. -/
def resolve? (tree : FileTree) (path : Path) : Option Location :=
  if path.bytes.isEmpty || path.isTooLong then none
  else resolveWithin tree.root maxLinks tree.current path.steps

def find? (tree : FileTree) (path : Path) : Option Node :=
  (tree.resolve? path).bind tree.root.at?

def exists? (tree : FileTree) (path : Path) : Bool := (tree.find? path).isSome

def isFile (tree : FileTree) (path : Path) : Bool := (tree.find? path).any Node.isFile

def nameTooLong : String := "File name too long (os error 36)"

def readText (tree : FileTree) (path : Path) : Except String String :=
  match tree.find? path with
  | some (.file (.ok bytes)) =>
    match String.fromUTF8? bytes with
    | some text => .ok text
    | none => .error "stream did not contain valid UTF-8"
  | some (.file (.error fault)) => .error fault
  | some _ => .error "Is a directory (os error 21)"
  | none =>
      .error (if path.isTooLong then nameTooLong else "No such file or directory (os error 2)")

def readText? (tree : FileTree) (path : Path) : Option String := (tree.readText path).toOption

def advanceNew (root : Node) : Location → List Component → Node × Progress
  | place, [] => (root, .arrived place)
  | _, .root :: rest => advanceNew root [] rest
  | place, .here :: rest => advanceNew root place rest
  | place, .up :: rest => advanceNew root place.dropLast rest
  | place, .name name :: rest =>
    match ((root.at? place).map Node.entries).bind (·.lookup name) with
    | some (.link target) => (root, .linked place target rest)
    | some _ => advanceNew root (place ++ [name]) rest
    | none => advanceNew (root.put .emptyDirectory (place ++ [name])) (place ++ [name]) rest

def openWithin (root : Node) : Nat → Location → List Component → Option (Node × Location)
  | links, place, steps =>
    match advanceNew root place steps with
    | (root, .arrived place) => some (root, place)
    | (_, .missing) => none
    | (root, .linked place target rest) =>
      match links with
      | 0 => none
      | links + 1 => openWithin root links place (target.steps ++ rest)

/-- Makes a node at a path, with the directories that are missing on the way. Links are followed,
also one at the very end, as when a file is written through it. -/
def make (tree : FileTree) (path : Path) (node : Node) : FileTree :=
  match openWithin tree.root maxLinks tree.current path.steps with
  | some (root, place) => { tree with root := root.put node place }
  | none => tree

def makeLink (tree : FileTree) (path target : Path) : FileTree :=
  match openWithin tree.root maxLinks tree.current path.steps.dropLast, path.fileName? with
  | some (root, place), some name => { tree with root := root.put (.link target) (place ++ [name]) }
  | _, _ => tree

def makeDirectory (tree : FileTree) (path : Path) : FileTree :=
  if (tree.find? path).any Node.isDirectory then tree else tree.make path .emptyDirectory

end FileTree

end QuoteLint
