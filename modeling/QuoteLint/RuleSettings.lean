import QuoteLint.Registry

/-! Which rules a user has switched off, and at which level the others report. -/

namespace QuoteLint

structure RuleSettings where
  disabled : List String
  severity : NameMap Severity

namespace RuleSettings

def empty : RuleSettings := ⟨[], .empty⟩

def levelFor (settings : RuleSettings) (id : String) (own : Severity) : Severity :=
  (settings.severity.find? id).getD own

def unknownRule (id : String) : LogRecord :=
  ⟨.warn, "tmpl_lint::config", "Ignoring unknown rule '" ++ id ++ "' in disabled rules"⟩

/-- Switches off rules one after another, and warns of each id that no rule has. -/
def disableAll (registry : Registry) : List String → Registry × List LogRecord
  | [] => (registry, [])
  | id :: rest =>
    let (known, registry) := registry.disable id
    let (registry, warnings) := disableAll registry rest
    (registry, if known then warnings else unknownRule id :: warnings)

def apply (settings : RuleSettings) (registry : Registry) : Registry × List LogRecord :=
  disableAll registry settings.disabled

def buildRegistry (settings : RuleSettings) : Registry × List LogRecord :=
  settings.apply .builtin

end RuleSettings

end QuoteLint
