import QuoteLint.Rule

/-! Findings as they are reported to a user. -/

namespace QuoteLint

structure Diagnostic where
  line : Nat
  ruleId : String
  message : String
  shortMessage : String
  sourceLine : String
  severity : Severity
  deriving DecidableEq, Repr

namespace Diagnostic

def ofViolation (severity : Severity) (found : Violation) : Diagnostic where
  line := found.line
  ruleId := found.ruleId
  message := found.message
  shortMessage := found.shortMessage
  sourceLine := found.text
  severity := severity

/-- By line, then by the id of the rule. -/
def le (a b : Diagnostic) : Bool :=
  a.line < b.line || (a.line == b.line && !(b.ruleId < a.ruleId))

end Diagnostic

structure LintResult where
  diagnostics : List Diagnostic
  deriving DecidableEq, Repr

namespace LintResult

def empty : LintResult := ⟨[]⟩

def push (result : LintResult) (diagnostic : Diagnostic) : LintResult :=
  ⟨result.diagnostics ++ [diagnostic]⟩

def isClean (result : LintResult) : Bool := result.diagnostics.isEmpty

def countAt (result : LintResult) (severity : Severity) : Nat :=
  result.diagnostics.countP (·.severity == severity)

def hasErrors (result : LintResult) : Bool := 0 < result.countAt .error

def onLine (result : LintResult) (line : Nat) : List Diagnostic :=
  result.diagnostics.filter (·.line == line)

end LintResult

end QuoteLint
