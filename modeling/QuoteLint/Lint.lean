import QuoteLint.Diagnostic
import QuoteLint.RuleSettings

/-! Running the enabled rules over a document. -/

namespace QuoteLint

def diagnosticsOf (settings : RuleSettings) (content : String) (rule : Rule) : List Diagnostic :=
  (rule.run content).map (Diagnostic.ofViolation (settings.levelFor rule.id rule.level))

/-- The findings of all enabled rules. Those on one line that name one rule keep the order in which
they were found. -/
def lint (registry : Registry) (settings : RuleSettings) (content : String) : LintResult :=
  ⟨(registry.enabled.flatMap (diagnosticsOf settings content)).mergeSort Diagnostic.le⟩

def ruleLog (content : String) (rule : Rule) : List LogRecord :=
  let found := rule.run content
  found.flatMap rule.trace ++
    [⟨.debug, "tmpl_lint::validation::engine",
      rule.id ++ " produced " ++ toString found.length ++ " violation(s)"⟩]

def lintLog (registry : Registry) (content : String) : List LogRecord :=
  registry.enabled.flatMap (ruleLog content)

end QuoteLint
