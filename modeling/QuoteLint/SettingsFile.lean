import QuoteLint.FileTree
import QuoteLint.RuleSettings
import QuoteLint.Toml.Reader

/-! Settings files: what they may hold, how they are found and read, and how one is laid over
another. -/

namespace QuoteLint

structure SettingsFile where
  disabledRules : List String
  severity : NameMap Severity
  extensions : Option (List String)

namespace SettingsFile

def empty : SettingsFile := ⟨[], .empty, none⟩

def text? : Toml.Item → Option String
  | .text value => some value
  | _ => none

def texts? : Toml.Item → Option (List String)
  | .list items => items.mapM text?
  | _ => none

def isEmptyItem : Toml.Item → Bool
  | .list [] => true
  | .table _ [] => true
  | _ => false

/-- A level is a text, or a table with the level as its one key and nothing under it. -/
def severity? : Toml.Item → Option Severity
  | .text value => Severity.ofName? value
  | .table _ [(key, item)] => if isEmptyItem item then Severity.ofName? key else none
  | _ => none

def severities? : Toml.Item → Option (NameMap Severity)
  | .table _ entries => do
    let levels ← entries.mapM fun (id, item) => (severity? item).map (id, ·)
    return .ofList levels
  | _ => none

def addEntry (file : SettingsFile) (entry : String × Toml.Item) : Option SettingsFile :=
  match entry.1 with
  | "disabled_rules" => (texts? entry.2).map fun ids => { file with disabledRules := ids }
  | "severity" => (severities? entry.2).map fun levels => { file with severity := levels }
  | "extensions" => (texts? entry.2).map fun names => { file with extensions := some names }
  | _ => none

def parse? (content : String) : Option SettingsFile := do
  let table ← Toml.read? content
  table.entries.foldlM addEntry empty

def addNew (ids : List String) (id : String) : List String :=
  if ids.contains id then ids else ids ++ [id]

/-- Lays `upper` on top; where both set something, `upper` decides. Disabled rules add up. -/
def merge (base upper : SettingsFile) : SettingsFile where
  disabledRules := upper.disabledRules.foldl addNew base.disabledRules
  severity := base.severity.override upper.severity
  extensions := upper.extensions <|> base.extensions

end SettingsFile

inductive ConfigError where
  | notFound (path : Path)
  | unreadable (path : Path)
  | malformed (path : Path)
  deriving DecidableEq, Repr

def ConfigError.message : ConfigError → String
  | .notFound path => "Config file not found: " ++ path.display
  | .unreadable path => "Failed to read config file: " ++ path.display
  | .malformed path => "Failed to parse config file: " ++ path.display

namespace SettingsFile

def load (tree : FileTree) (path : Path) : Except ConfigError (Option SettingsFile) :=
  if tree.exists? path then
    match tree.readText? path with
    | none => .error (.unreadable path)
    | some content =>
      match parse? content with
      | none => .error (.malformed path)
      | some file => .ok (some file)
  else .ok none

def projectFileName : Path := ".tmpl-lint.toml"

def findProject? (tree : FileTree) (start : Path) : Option Path :=
  (start.ancestors.map (·.join projectFileName)).find? tree.isFile

end SettingsFile

end QuoteLint
