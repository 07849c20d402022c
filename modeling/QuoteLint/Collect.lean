import QuoteLint.FileTree

/-! Finding the files to lint under the paths that a user gives. -/

namespace QuoteLint

/-- A name that is no text is not hidden, whatever it starts with. -/
def isHidden (name : Name) : Bool := name.text?.any fun text => text.toList.head? == some '.'

mutual

def filesOf (extensions : List String) (path : Path) : Node → List Path
  | .file _ => if path.hasExtension extensions then [path] else []
  | .directory entries _ => filesIn extensions path entries
  | .link _ => []

/-- The files below a directory. Hidden directories are passed over, hidden files are not. -/
def filesIn (extensions : List String) (directory : Path) : List (Name × Node) → List Path
  | [] => []
  | (name, node) :: rest =>
    (if isHidden name && node.isDirectory then []
      else filesOf extensions (directory.below name) node) ++
      filesIn extensions directory rest

end

def listingFault? (path : Path) (fault : Option String) : Option String :=
  if path.isTooLong then some FileTree.nameTooLong else fault

mutual

def unlisted? (path : Path) : Node → Option (Path × String)
  | .directory entries fault =>
    match listingFault? path fault with
    | some cause => some (path, cause)
    | none => unlistedIn? path entries
  | _ => none

def unlistedIn? (directory : Path) : List (Name × Node) → Option (Path × String)
  | [] => none
  | (name, node) :: rest =>
    (if isHidden name then none else unlisted? (directory.below name) node) <|>
      unlistedIn? directory rest

end

inductive FileError where
  | notFound (path : Path)
  | unwalkable (directory below : Path) (cause : String)
  | unreadable (path : Path) (cause : String)
  deriving DecidableEq, Repr

namespace FileError

def message : FileError → String
  | .notFound path => "No such file or directory: " ++ path.display
  | .unwalkable directory _ _ => "Failed to walk directory: " ++ directory.display
  | .unreadable path _ => "Failed to read template: " ++ path.display

def causes : FileError → List String
  | .notFound _ => []
  | .unwalkable _ below cause =>
    ["IO error for operation on " ++ below.display ++ ": " ++ cause, cause]
  | .unreadable _ cause => [cause]

def report (error : FileError) : String := ": ".intercalate (error.message :: error.causes)

end FileError

def expand (tree : FileTree) (extensions : List String) (path : Path) :
    Except FileError (List Path) :=
  match tree.find? path with
  | some (.directory entries fault) =>
    match unlisted? path (.directory entries fault) with
    | some (below, cause) => .error (.unwalkable path below cause)
    | none => .ok (filesIn extensions path entries)
  | some (.file _) => .ok [path]
  | _ => .error (.notFound path)

def expandAll (tree : FileTree) (extensions : List String) :
    List Path → Except FileError (List Path)
  | [] => .ok []
  | path :: rest => do
    let files ← expand tree extensions path
    let more ← expandAll tree extensions rest
    return files ++ more

def dropAlike (last : Path) : List Path → List Path
  | [] => []
  | path :: rest =>
    if path.alike last then dropAlike last rest else path :: dropAlike path rest

def dropRepeats : List Path → List Path
  | [] => []
  | path :: rest => path :: dropAlike path rest

/-- The files under the given paths, in order and each of them once. Of paths that are alike, the
one found first is kept. -/
def collectFiles (tree : FileTree) (paths : List Path) (extensions : List String) :
    Except FileError (List Path) := do
  let files ← expandAll tree extensions paths
  return dropRepeats (files.mergeSort Path.le)

end QuoteLint
