import QuoteLint.Arguments
import QuoteLint.SettingsFile
import QuoteLint.Text.Blank
import QuoteLint.Text.Lowercase

/-! The configuration of a run, put together from the command line, the settings files and
defaults. -/

namespace QuoteLint

structure Config where
  paths : List Path
  format : ReportFormat
  watch : Bool
  denyWarnings : Bool
  extensions : List String
  rules : RuleSettings
  logLevel : String
  /-- The settings file of the project, or the one that the command line names. -/
  projectFile : Option Path

namespace Config

def default : Config where
  paths := ["."]
  format := .text
  watch := false
  denyWarnings := false
  extensions := ["tpl", "tmpl", "yaml", "yml", "gotmpl"]
  rules := .empty
  logLevel := "info"
  projectFile := none

def normalizeExtension (extension : String) : String :=
  String.ofList (Text.lowercase ((Text.trim extension.toList).dropWhile (· == '.')))

def normalizeExtensions (extensions : List String) : List String :=
  (extensions.map normalizeExtension).filter (!·.isEmpty)

def mergeFrom (tree : FileTree) (base : SettingsFile) :
    Option Path → Except ConfigError SettingsFile
  | none => .ok base
  | some path => do
    match ← SettingsFile.load tree path with
    | some file => return base.merge file
    | none => return base

/-- The settings of all files that count, and the path of the project's file. A file that is named
must be there, and then no other is looked at. -/
def loadFiles (tree : FileTree) (explicit : Option Path) (start : Path) (user : Option Path) :
    Except ConfigError (SettingsFile × Option Path) :=
  match explicit with
  | some path => do
    match ← SettingsFile.load tree path with
    | some file => return (file, some path)
    | none => .error (.notFound path)
  | none => do
    let merged ← mergeFrom tree .empty user
    let project := SettingsFile.findProject? tree start
    return (← mergeFrom tree merged project, project)

def ofFiles (file : SettingsFile) (project : Option Path) : Config :=
  { default with
    rules := ⟨file.disabledRules, file.severity⟩
    extensions := match file.extensions with
      | some extensions => normalizeExtensions extensions
      | none => default.extensions
    projectFile := project }

/-- The configuration for a command line. It goes before the project's file, that before the user's,
and that before the defaults. -/
def resolve (tree : FileTree) (arguments : Arguments) (start : Path) (user : Option Path) :
    Except ConfigError Config := do
  let (file, project) ← loadFiles tree arguments.config start user
  let base := ofFiles file project
  return { base with
    paths := arguments.paths
    format := arguments.format
    watch := arguments.watch
    denyWarnings := arguments.denyWarnings
    logLevel := arguments.logLevel
    rules := { base.rules with
      disabled := arguments.disabledRules.foldl SettingsFile.addNew base.rules.disabled }
    extensions := match arguments.extensions with
      | some extensions => normalizeExtensions extensions
      | none => base.extensions }

def discover (tree : FileTree) (start : Path) (user : Option Path) : Except ConfigError Config := do
  let (file, project) ← loadFiles tree none start user
  return ofFiles file project

end Config

end QuoteLint
