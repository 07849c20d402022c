import QuoteLint.Config
import QuoteLint.LintFile

/-! Linting files again when they change. A watcher tells of changes, each at its time; those that
follow one another closely are gathered into a round, and the files that changed in a round are
linted together. -/

namespace QuoteLint.Watch

def target : String := "tmpl_lint::watch"

inductive ChangeKind where
  | any
  | access
  | create
  | modify
  | remove
  | other
  deriving DecidableEq, Repr

structure Change where
  kind : ChangeKind
  paths : List Path

def changedTemplates (extensions : List String) (change : Change) : List Path :=
  match change.kind with
  | .create | .modify => change.paths.filter (·.hasExtension extensions)
  | _ => []

inductive Signal where
  | changed (path : Path)
  | fault (text : String)

def signalsOf (extensions : List String) : Except String Change → List Signal
  | .ok change => (changedTemplates extensions change).map .changed
  | .error text => [.fault text]

structure Timed (α : Type) where
  time : Nat
  event : α

def debounce : Nat := 200

structure Round where
  signals : List Signal
  due : Nat

/-- The rounds of the signals that are still to come, when some have been gathered, the last of them
at a time. -/
def roundsFrom (gathered : List Signal) (last : Nat) : List (Timed Signal) → List Round
  | [] => [⟨gathered, last + debounce⟩]
  | next :: rest =>
    if next.time ≤ last + debounce then roundsFrom (gathered ++ [next.event]) next.time rest
    else ⟨gathered, last + debounce⟩ :: roundsFrom [next.event] next.time rest

def rounds : List (Timed Signal) → List Round
  | [] => []
  | first :: rest => roundsFrom [first.event] first.time rest

def changedPath? : Signal → Option Path
  | .changed path => some path
  | .fault _ => none

def changedIn (signals : List Signal) : List Path :=
  dropRepeats ((signals.filterMap changedPath?).mergeSort Path.le)

def signalLog : Signal → LogRecord
  | .changed path => ⟨.debug, target, "Template changed: " ++ path.display⟩
  | .fault text => ⟨.error, target, "Template watcher error: " ++ text⟩

structure Trace where
  output : String
  log : List LogRecord

def Trace.nothing : Trace := ⟨"", []⟩

/-- Lints files again. Those that are gone are passed over, and nothing is written if none is
left. -/
def relint (tree : FileTree) (config : Config) (registry : Registry) (paths : List Path) : Trace :=
  let present := paths.filter tree.isFile
  let log := present.flatMap (Linter.fileLog .warn target tree registry config.rules)
  let reports := Linter.reportsOf tree registry config.rules present
  if reports.isEmpty then ⟨"", log⟩
  else match Report.write config.format reports with
    | ⟨output, none⟩ => ⟨output, log⟩
    | ⟨output, some fault⟩ =>
        ⟨output, log ++ [⟨.error, target, "Failed to write report: " ++ fault⟩]⟩

def Round.play (round : Round) (tree : FileTree) (config : Config) (registry : Registry) : Trace :=
  let linted := relint tree config registry (changedIn round.signals)
  ⟨linted.output, round.signals.map signalLog ++ linted.log⟩

/-- What goes on while files are watched: what stands on disk at each time, and what the watcher
tells, unless it cannot be set up. -/
structure Course where
  files : Nat → FileTree
  told : Except String (List (Timed (Except String Change)))

def Course.still (tree : FileTree) : Course := ⟨fun _ => tree, .ok []⟩

def signalsIn (extensions : List String) (told : List (Timed (Except String Change))) :
    List (Timed Signal) :=
  told.flatMap fun news => (signalsOf extensions news.event).map (⟨news.time, ·⟩)

def opening (config : Config) : LogRecord :=
  ⟨.info, target, "Watching " ++ toString config.paths.length ++ " path(s) for changes"⟩

def follow (files : Nat → FileTree) (config : Config) (registry : Registry)
    (told : List (Timed (Except String Change))) : Trace :=
  let traces := (rounds (signalsIn config.extensions told)).map fun round =>
    round.play (files round.due) config registry
  ⟨String.join (traces.map (·.output)), opening config :: traces.flatMap (·.log)⟩

end QuoteLint.Watch
