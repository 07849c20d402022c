import QuoteLint.Text.Blank

/-! The lines of a document: numbered from one, trimmed, and sorted into those that rules read and
those that they pass over. -/

namespace QuoteLint

inductive LineKind where
  | content
  | comment
  | empty
  deriving DecidableEq, Repr

structure Line where
  number : Nat
  text : String
  deriving DecidableEq, Repr

namespace Line

def ofRaw (number : Nat) (raw : List Char) : Line :=
  ⟨number, String.ofList (Text.trim raw)⟩

def kind (line : Line) : LineKind :=
  match line.text.toList with
  | [] => .empty
  | '#' :: _ => .comment
  | _ :: _ => .content

/-- Blank lines and comments keep their number and are never scanned. -/
def isSkipped (line : Line) : Bool := line.kind != .content

end Line

/-- The text between newlines, with nothing trimmed. An empty document has one line. -/
def physicalLines (content : String) : List (List Char) :=
  content.toList.splitOn '\n'

def numberFrom (number : Nat) : List (List Char) → List Line
  | [] => []
  | raw :: rest => Line.ofRaw number raw :: numberFrom (number + 1) rest

def lines (content : String) : List Line := numberFrom 1 (physicalLines content)

def scannableLines (content : String) : List Line :=
  (lines content).filter (!·.isSkipped)

end QuoteLint
