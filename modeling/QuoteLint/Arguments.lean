import QuoteLint.Path
import QuoteLint.Report

/-! The command line of the linter. -/

namespace QuoteLint

structure Arguments where
  paths : List Path
  format : ReportFormat
  watch : Bool
  denyWarnings : Bool
  disabledRules : List String
  config : Option Path
  extensions : Option (List String)
  logLevel : String
  deriving DecidableEq, Repr

inductive ArgumentError where
  | unknownArgument
  | invalidValue
  | conflict
  | tooManyValues
  | help
  | version
  deriving DecidableEq, Repr

namespace Arguments

def helpText : String :=
  "Lint quote balance in templated YAML and text files\n\n" ++
  "Usage: tmpl-lint [OPTIONS] [PATHS]...\n\n" ++
  "Arguments:\n" ++
  "  [PATHS]...  Files or directories to lint [default: .]\n\n" ++
  "Options:\n" ++
  "      --format <FORMAT>        Report format [default: text] [possible values: text, json]\n" ++
  "      --watch                  Re-lint files whenever they change\n" ++
  "      --deny-warnings          Exit with a failure status when any warning is reported\n" ++
  "      --disable <ID>           Disable a rule by identifier (repeatable)\n" ++
  "      --config <FILE>          Explicit config file, skipping project config discovery\n" ++
  "      --extensions <EXT>       File extensions to lint when walking directories\n" ++
  "      --log-level <LOG_LEVEL>  Log level (trace, debug, info, warn, error) [default: info]\n" ++
  "  -h, --help                   Print help\n" ++
  "  -V, --version                Print version\n"

def versionText : String := "tmpl-lint 0.1.0\n"

inductive Choice where
  | format
  | disable
  | config
  | extensions
  | logLevel
  deriving DecidableEq, Repr

inductive Switch where
  | watch
  | denyWarnings
  | help
  | version
  deriving DecidableEq, Repr

def choice? : String → Option Choice
  | "format" => some .format
  | "disable" => some .disable
  | "config" => some .config
  | "extensions" => some .extensions
  | "log-level" => some .logLevel
  | _ => none

def switch? : String → Option Switch
  | "watch" => some .watch
  | "deny-warnings" => some .denyWarnings
  | "help" => some .help
  | "version" => some .version
  | _ => none

structure Taken where
  paths : List Path
  format : Option ReportFormat
  watch : Bool
  denyWarnings : Bool
  disabledRules : List String
  config : Option Path
  extensions : Option (List String)
  logLevel : Option String

def Taken.empty : Taken := ⟨[], none, false, false, [], none, none, none⟩

/-- What is still to be taken in: an option that waits for its value or has just got it, or the
paths of an unbroken run. -/
inductive Pending where
  | nothing
  | awaiting (choice : Choice)
  | given (choice : Choice) (value : String)
  | paths (values : List String)

def format? : String → Option ReportFormat
  | "text" => some .text
  | "json" => some .json
  | _ => none

def path? (value : String) : Option Path := if value.isEmpty then none else some (.ofText value)

def orInvalid {α : Type} : Option α → Except ArgumentError α
  | some value => .ok value
  | none => .error .invalidValue

def once {α : Type} (held : Option α) (value : Option α) : Except ArgumentError (Option α) :=
  if held.isSome then .error .conflict else (orInvalid value).map some

def commaParts (value : String) : List String := (value.toList.splitOn ',').map String.ofList

def Taken.choose (taken : Taken) (value : String) : Choice → Except ArgumentError Taken
  | .format => do return { taken with format := ← once taken.format (format? value) }
  | .config => do return { taken with config := ← once taken.config (path? value) }
  | .logLevel => do return { taken with logLevel := ← once taken.logLevel (some value) }
  | .disable => .ok { taken with disabledRules := taken.disabledRules ++ [value] }
  | .extensions =>
    .ok { taken with extensions := some (taken.extensions.getD [] ++ commaParts value) }

def Taken.turnOn (taken : Taken) : Switch → Except ArgumentError Taken
  | .watch => if taken.watch then .error .conflict else .ok { taken with watch := true }
  | .denyWarnings =>
    if taken.denyWarnings then .error .conflict else .ok { taken with denyWarnings := true }
  | .help => .error .help
  | .version => .error .version

/-- Takes in what is pending. Values are judged only now. -/
def Taken.settle (taken : Taken) : Pending → Except ArgumentError Taken
  | .nothing => .ok taken
  | .awaiting _ => .error .invalidValue
  | .given choice value => taken.choose value choice
  | .paths values => do
    let paths ← orInvalid (values.mapM path?)
    return { taken with paths := taken.paths ++ paths }

inductive Token where
  | divider
  | long (name : String) (value : Option String)
  | short (letter : Char)
  | plain (text : String)

def token (argument : String) : Token :=
  match argument.toList with
  | ['-', '-'] => .divider
  | '-' :: '-' :: rest =>
    let name := String.ofList (rest.takeWhile (· != '='))
    match rest.dropWhile (· != '=') with
    | _ :: value => .long name (some (String.ofList value))
    | [] => .long name none
  | '-' :: letter :: _ => .short letter
  | _ => .plain argument

def takePlain (taken : Taken) (pending : Pending) (text : String) :
    Except ArgumentError (Taken × Pending) :=
  match pending with
  | .awaiting choice => .ok (taken, .given choice text)
  | .paths values => .ok (taken, .paths (values ++ [text]))
  | _ => do return (← taken.settle pending, .paths [text])

/-- An option. A known one first settles what is pending; an unknown one, or a value that a switch
does not take, is a fault at once. -/
def takeLong (taken : Taken) (pending : Pending) (name : String) (value : Option String) :
    Except ArgumentError (Taken × Pending) :=
  match choice? name, switch? name, value with
  | some choice, _, some value => do
    let taken ← taken.settle pending
    return (← taken.choose value choice, .nothing)
  | some choice, _, none => do return (← taken.settle pending, .awaiting choice)
  | none, some _, some _ => .error .tooManyValues
  | none, some switch, none => do
    let taken ← taken.settle pending
    return (← taken.turnOn switch, .nothing)
  | none, none, _ => .error .unknownArgument

def takeShort (taken : Taken) (pending : Pending) (letter : Char) :
    Except ArgumentError (Taken × Pending) :=
  match letter with
  | 'h' => do return (← (← taken.settle pending).turnOn .help, .nothing)
  | 'V' => do return (← (← taken.settle pending).turnOn .version, .nothing)
  | _ => .error .unknownArgument

def takePaths (taken : Taken) (pending : Pending) : List String → Except ArgumentError Taken
  | [] => taken.settle pending
  | argument :: rest =>
    match pending with
    | .paths values => takePaths taken (.paths (values ++ [argument])) rest
    | _ => do
      let taken ← taken.settle pending
      takePaths taken (.paths [argument]) rest

def takeAll (taken : Taken) (pending : Pending) : List String → Except ArgumentError Taken
  | [] => taken.settle pending
  | argument :: rest =>
    match token argument with
    | .divider => takePaths taken pending rest
    | .long name value => do
      let (taken, pending) ← takeLong taken pending name value
      takeAll taken pending rest
    | .short letter => do
      let (taken, pending) ← takeShort taken pending letter
      takeAll taken pending rest
    | .plain text => do
      let (taken, pending) ← takePlain taken pending text
      takeAll taken pending rest

def ofTaken (taken : Taken) : Arguments where
  paths := if taken.paths.isEmpty then ["."] else taken.paths
  format := taken.format.getD .text
  watch := taken.watch
  denyWarnings := taken.denyWarnings
  disabledRules := taken.disabledRules
  config := taken.config
  extensions := taken.extensions
  logLevel := taken.logLevel.getD "info"

def parse (arguments : List String) : Except ArgumentError Arguments :=
  (takeAll .empty .nothing arguments).map ofTaken

end Arguments

end QuoteLint
