import QuoteLint.Json
import QuoteLint.Lint
import QuoteLint.Text.Units
import QuoteLint.Text.Utf8

/-! Documents as an editor shows them. Positions are counted from zero, in lines and in 16-bit
units. -/

namespace QuoteLint.Editor

structure Position where
  line : UInt32
  character : UInt32
  deriving DecidableEq, Repr

structure Range where
  start : Position
  stop : Position
  deriving DecidableEq, Repr

structure Mark where
  range : Range
  severity : Severity
  code : String
  source : String
  message : String
  deriving DecidableEq, Repr

structure Hover where
  markdown : String
  range : Range
  deriving DecidableEq, Repr

structure Document where
  content : String
  result : LintResult
  deriving DecidableEq, Repr

def Document.ofText (registry : Registry) (settings : RuleSettings) (content : String) : Document :=
  ⟨content, lint registry settings content⟩

/-- The length of a physical line without the carriage returns at its end. A line that is not there
has length zero. -/
def lineLength (content : String) (index : Nat) : Nat :=
  match (physicalLines content)[index]? with
  | some raw => Text.units (Text.dropEndWhile (· == '\r') raw)
  | none => 0

def markOf (content : String) (diagnostic : Diagnostic) : Mark :=
  let index := diagnostic.line - 1
  { range := ⟨⟨index.toUInt32, 0⟩, ⟨index.toUInt32, (lineLength content index).toUInt32⟩⟩
    severity := diagnostic.severity
    code := diagnostic.ruleId
    source := "tmpl-lint"
    message := diagnostic.message }

def Document.marks (document : Document) : List Mark :=
  document.result.diagnostics.map (markOf document.content)

def ruleSection (rule : Rule) : String :=
  "**" ++ rule.name ++ "** (`" ++ rule.id ++ "`)\n\n" ++ rule.fullDescription

def hoverMarkdown? (result : LintResult) (registry : Registry) (line : Nat) : Option String :=
  let sections :=
    ((result.onLine line).filterMap fun found => registry.get? found.ruleId).map ruleSection
  if sections.isEmpty then none else some (String.intercalate "\n\n---\n\n" sections)

/-- What is shown over a line, counted from zero: the rules that it breaks, over the trimmed
text. -/
def Document.hover? (document : Document) (registry : Registry) (index : Nat) : Option Hover := do
  let raw ← (physicalLines document.content)[index]?
  let line := Line.ofRaw (index + 1) raw
  if line.isSkipped then none else
  let markdown ← hoverMarkdown? document.result registry line.number
  let indent ← Text.takeBytes? raw (Text.indentBytes raw)
  let start := (Text.units indent).toUInt32
  let stop := start + (Text.units line.text.toList).toUInt32
  return ⟨markdown, ⟨⟨index.toUInt32, start⟩, ⟨index.toUInt32, stop⟩⟩⟩

def severityCode : Severity → Nat
  | .error => 1
  | .warning => 2
  | .info => 3

def Position.json (position : Position) : Json :=
  .object [("line", .int position.line.toNat), ("character", .int position.character.toNat)]

def Range.json (range : Range) : Json :=
  .object [("start", range.start.json), ("end", range.stop.json)]

def Mark.json (mark : Mark) : Json :=
  .object [
    ("range", mark.range.json),
    ("severity", .int (severityCode mark.severity)),
    ("code", .text mark.code),
    ("source", .text mark.source),
    ("message", .text mark.message)]

def Hover.json (hover : Hover) : Json :=
  .object [
    ("contents", .object [("kind", .text "markdown"), ("value", .text hover.markdown)]),
    ("range", hover.range.json)]

end QuoteLint.Editor
