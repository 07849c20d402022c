import QuoteLint.LogFilter
import QuoteLint.Watch

/-! The linter as a program: from a command line and a tree of files to a report, an exit status and
a log. -/

namespace QuoteLint

structure Outcome where
  status : ExitStatus
  output : String
  log : List LogRecord

namespace Linter

def target : String := "tmpl_lint"

def usingConfig (target : String) (project : Option Path) : List LogRecord :=
  match project with
  | some path => [⟨.info, target, "Using config " ++ path.display⟩]
  | none => []

structure Pass where
  reports : List FileReport
  failed : Int32
  output : String
  log : List LogRecord

def failureWith (output : String) (log : List LogRecord) (fault : String) : Outcome :=
  ⟨.failure, output, log ++ [⟨.error, target, fault⟩]⟩

def firstPass (tree : FileTree) (config : Config) : Except Outcome Pass :=
  let (registry, warnings) := config.rules.buildRegistry
  let opening := usingConfig target config.projectFile ++ warnings
  match collectFiles tree config.paths config.extensions with
  | .error error => .error (failureWith "" opening error.report)
  | .ok files =>
    let reports := reportsOf tree registry config.rules files
    let log := opening ++
      [⟨.debug, target, "Linting " ++ toString files.length ++ " file(s)"⟩] ++
      files.flatMap (fileLog .error target tree registry config.rules)
    match Report.write config.format reports with
    | ⟨output, some fault⟩ => .error (failureWith output log fault)
    | ⟨output, none⟩ => .ok ⟨reports, failuresOf tree registry config.rules files, output, log⟩

/-- A file that could not be read makes the run a failure, whatever the others are like. -/
def Pass.conclude (pass : Pass) (denyWarnings : Bool) (seen : Watch.Trace) : Outcome :=
  let output := pass.output ++ seen.output
  let log := pass.log ++ seen.log
  if 0 < pass.failed then
    failureWith output log (toString pass.failed ++ " file(s) could not be linted")
  else ⟨exitStatus pass.reports denyWarnings, output, log⟩

def run (tree : FileTree) (config : Config) (course : Watch.Course) : Outcome :=
  match firstPass tree config with
  | .error outcome => outcome
  | .ok pass =>
    if config.watch then
      match course.told with
      | .error fault => failureWith pass.output pass.log fault
      | .ok told =>
        pass.conclude config.denyWarnings
          (Watch.follow course.files config config.rules.buildRegistry.1 told)
    else pass.conclude config.denyWarnings .nothing

/-- Runs a command line. The log starts when the configuration is known, and holds what its filter
lets through. -/
def execute (tree : FileTree) (start : Path) (user : Option Path) (arguments : List String)
    (course : Watch.Course) : Outcome :=
  match Arguments.parse arguments with
  | .error .help => ⟨.clean, Arguments.helpText, []⟩
  | .error .version => ⟨.clean, Arguments.versionText, []⟩
  | .error _ => ⟨.failure, "", []⟩
  | .ok arguments =>
    match Config.resolve tree arguments start user with
    | .error _ => ⟨.failure, "", []⟩
    | .ok config =>
      let outcome := run tree config course
      { outcome with log := outcome.log.filter (LogFilter.parse config.logLevel).accepts }

end Linter

end QuoteLint
