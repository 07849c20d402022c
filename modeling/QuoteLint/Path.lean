import QuoteLint.Text.Utf8

/-! Paths of files as users write them. A path is printed as it was given; it is compared by the
components that it names. Both paths and names are bytes, and need not be texts. -/

namespace QuoteLint

@[ext]
structure Name where
  bytes : List UInt8
  deriving DecidableEq, Repr

namespace Name

def ofText (text : String) : Name := ⟨Text.utf8 text⟩

instance : Coe String Name := ⟨ofText⟩

def text? (name : Name) : Option String := Text.decode? name.bytes

end Name

@[ext]
structure Path where
  bytes : List UInt8
  deriving DecidableEq, Repr

inductive Component where
  | root
  | here
  | up
  | name (name : Name)
  deriving DecidableEq, Repr

namespace Component

def rank : Component → Nat
  | .root => 0
  | .here => 1
  | .up => 2
  | .name _ => 3

def label : Component → List UInt8
  | .name held => held.bytes
  | _ => []

def before (a b : Component) : Bool :=
  a.rank < b.rank || (a.rank == b.rank && a.label < b.label)

end Component

namespace Path

def ofText (text : String) : Path := ⟨Text.utf8 text⟩

instance : Coe String Path := ⟨ofText⟩

def text? (path : Path) : Option String := Text.decode? path.bytes

def display (path : Path) : String := Text.display path.bytes

def slash : UInt8 := 0x2f

def dot : UInt8 := 0x2e

def maxBytes : Nat := 4095

def isTooLong (path : Path) : Bool := maxBytes < path.bytes.length

def isAbsolute (path : Path) : Bool := path.bytes.head? == some slash

def segments (path : Path) : List (List UInt8) := path.bytes.splitOn slash

/-- The components of a list of segments, each with the offset at which it ends. Empty segments and
dots name nothing, but for a dot at the very front. -/
def piecesFrom (offset : Nat) (front : Bool) : List (List UInt8) → List (Component × Nat)
  | [] => []
  | segment :: rest =>
    let stop := offset + segment.length
    let more := piecesFrom (stop + 1) false rest
    if segment = [] then more
    else if segment = [dot] then if front then (.here, stop) :: more else more
    else if segment = [dot, dot] then (.up, stop) :: more
    else (.name ⟨segment⟩, stop) :: more

def pieces (path : Path) : List (Component × Nat) :=
  let named := piecesFrom 0 true path.segments
  if path.isAbsolute then (.root, 1) :: named else named

def components (path : Path) : List Component := path.pieces.map (·.1)

def alike (a b : Path) : Bool := a.components == b.components

def componentsLe : List Component → List Component → Bool
  | [], _ => true
  | _ :: _, [] => false
  | a :: as, b :: bs => a.before b || (a == b && componentsLe as bs)

def le (a b : Path) : Bool := componentsLe a.components b.components

def join (base next : Path) : Path :=
  if next.isAbsolute || base.bytes.isEmpty then next
  else if base.bytes.getLast? == some slash then ⟨base.bytes ++ next.bytes⟩
  else ⟨base.bytes ++ slash :: next.bytes⟩

def below (directory : Path) (name : Name) : Path := directory.join ⟨name.bytes⟩

def cutAt (path : Path) (stop : Nat) : Path := ⟨path.bytes.take stop⟩

/-- The path itself, then what is left of it as one component after another is taken off its end. A
relative path ends with the empty path, an absolute one with the root. -/
def ancestors (path : Path) : List Path :=
  let stops := path.pieces.map (·.2)
  let last := if path.isAbsolute || stops.isEmpty then [] else [⟨[]⟩]
  path :: stops.dropLast.reverse.map path.cutAt ++ last

def fileName? (path : Path) : Option Name :=
  match path.components.getLast? with
  | some (.name name) => some name
  | _ => none

def extension? (path : Path) : Option Name := do
  let name ← path.fileName?
  let reversed := name.bytes.reverse
  let beforeDot := (reversed.dropWhile (· != dot)).drop 1
  if beforeDot = [] then none else some ⟨(reversed.takeWhile (· != dot)).reverse⟩

def sameLetters (a b : String) : Bool :=
  a.toList.map Char.toLower == b.toList.map Char.toLower

/-- An extension that is no text is none of those that are asked for. -/
def hasExtension (path : Path) (extensions : List String) : Bool :=
  (path.extension?.bind Name.text?).any fun extension => extensions.any (sameLetters · extension)

def stepOf (segment : List UInt8) : Component :=
  if segment = [] ∨ segment = [dot] then .here
  else if segment = [dot, dot] then .up
  else .name ⟨segment⟩

/-- The steps that lead along a path, where `here` asks for a directory and for nothing else. -/
def steps (path : Path) : List Component :=
  let along := path.segments.map stepOf
  if path.isAbsolute then .root :: along else along

end Path

end QuoteLint
