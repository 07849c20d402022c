import QuoteLint.Collect
import QuoteLint.Report

/-! Linting the files of a list. A file that cannot be read has no report. -/

namespace QuoteLint

def lintFile (tree : FileTree) (registry : Registry) (settings : RuleSettings) (path : Path) :
    Except FileError FileReport :=
  match tree.readText path with
  | .ok content => .ok ⟨path, lint registry settings content⟩
  | .error cause => .error (.unreadable path cause)

namespace Linter

def fileLog (level : LogLevel) (target : String) (tree : FileTree) (registry : Registry)
    (settings : RuleSettings) (path : Path) : List LogRecord :=
  match tree.readText path with
  | .ok content =>
    let count := (lint registry settings content).diagnostics.length
    lintLog registry content ++
      [⟨.debug, "tmpl_lint::files", path.display ++ ": " ++ toString count ++ " diagnostic(s)"⟩]
  | .error cause => [⟨level, target, (FileError.unreadable path cause).report⟩]

def reportsOf (tree : FileTree) (registry : Registry) (settings : RuleSettings)
    (files : List Path) : List FileReport :=
  files.filterMap fun path => (lintFile tree registry settings path).toOption

/-- How many files have no report, counted in a signed machine word. -/
def failuresOf (tree : FileTree) (registry : Registry) (settings : RuleSettings)
    (files : List Path) : Int32 :=
  files.foldl
    (fun failed path =>
      match lintFile tree registry settings path with
      | .ok _ => failed
      | .error _ => failed + 1) 0

end Linter

end QuoteLint
