import QuoteLint.Json
import QuoteLint.Lint
import QuoteLint.Path

/-! Reports on linted files, and the exit status that they lead to. -/

namespace QuoteLint

inductive ReportFormat where
  | text
  | json
  deriving DecidableEq, Repr

structure FileReport where
  path : Path
  result : LintResult
  deriving DecidableEq, Repr

namespace Report

def diagnosticText (path : Path) (diagnostic : Diagnostic) : String :=
  path.display ++ ":" ++ toString diagnostic.line ++ ": " ++ diagnostic.severity.name ++
    " [" ++ diagnostic.ruleId ++ "] " ++ diagnostic.message ++ "\n    " ++
    diagnostic.sourceLine ++ "\n"

def reportText (report : FileReport) : String :=
  String.join (report.result.diagnostics.map (diagnosticText report.path))

/-- The findings are counted in a signed machine word, which goes on below zero after the
largest. -/
def total (reports : List FileReport) : Int32 :=
  reports.foldl (fun total report =>
    report.result.diagnostics.foldl (fun total _ => total + 1) total) 0

def summary (reports : List FileReport) : String :=
  let withFindings := reports.countP (!·.result.isClean)
  toString (total reports) ++ " problem(s) in " ++ toString withFindings ++ " of " ++
    toString reports.length ++ " file(s)\n"

def text (reports : List FileReport) : String :=
  String.join (reports.map reportText) ++ summary reports

def diagnosticJson (diagnostic : Diagnostic) : Json :=
  .object [
    ("line", .int diagnostic.line),
    ("rule_id", .text diagnostic.ruleId),
    ("message", .text diagnostic.message),
    ("short_message", .text diagnostic.shortMessage),
    ("source_line", .text diagnostic.sourceLine),
    ("severity", .text diagnostic.severity.name)]

def reportJson (path : String) (result : LintResult) : Json :=
  .object [
    ("path", .text path),
    ("diagnostics", .list (result.diagnostics.map diagnosticJson))]

def reportJson? (report : FileReport) : Option Json :=
  report.path.text?.map fun path => reportJson path report.result

def brokenJson (written : List Json) : List Char :=
  let started := if written.isEmpty then ['['] else '[' :: Json.prettyItems 1 written ++ [',']
  started ++ Json.newline 1 ++ '{' :: Json.newline 2 ++ Json.quote "path" ++ [':', ' ']

structure Written where
  output : String
  fault : Option String
  deriving DecidableEq, Repr

/-- JSON has no form for a path that is no text. -/
def json (reports : List FileReport) : Written :=
  match reports.mapM reportJson? with
  | some items => ⟨String.ofList ((Json.list items).pretty 0 ++ ['\n']), none⟩
  | none =>
    let written := (reports.takeWhile (·.path.text?.isSome)).filterMap reportJson?
    ⟨String.ofList (brokenJson written), some "path contains invalid UTF-8 characters"⟩

def write (format : ReportFormat) (reports : List FileReport) : Written :=
  match format with
  | .text => ⟨text reports, none⟩
  | .json => json reports

end Report

inductive ExitStatus where
  | clean
  | findings
  | failure
  deriving DecidableEq, Repr

def ExitStatus.code : ExitStatus → Nat
  | .clean => 0
  | .findings => 1
  | .failure => 2

def isFailing (denyWarnings : Bool) (report : FileReport) : Bool :=
  report.result.hasErrors || (denyWarnings && 0 < report.result.countAt .warning)

def exitStatus (reports : List FileReport) (denyWarnings : Bool) : ExitStatus :=
  if reports.any (isFailing denyWarnings) then .findings else .clean

end QuoteLint
