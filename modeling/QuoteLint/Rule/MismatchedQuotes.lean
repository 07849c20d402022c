import QuoteLint.Line
import QuoteLint.Quote.Scalar
import QuoteLint.Quote.Tracker
import QuoteLint.Rule

/-! The rule on mismatched quotes: a scannable line is reported when an expression closes badly on
it, or when it is a badly quoted scalar. -/

namespace QuoteLint.MismatchedQuotes

def ruleId : String := "GTUL006"

def violation (line : Line) : Violation where
  ruleId := ruleId
  shortMessage := "unmatched or invalid quote detected"
  message := "Unmatched or invalid quote detected."
  line := line.number
  text := line.text

def isBadScalar (text : List Char) : Bool :=
  Scalar.isBadDouble text || Scalar.isBadSingle text

def findFrom {κ : Type} [Tally κ] (t : Tracker κ) : List Line → List Violation
  | [] => []
  | line :: rest =>
    let scanned := t.scan line.text.toList
    if scanned.1 || isBadScalar line.text.toList then
      violation line :: findFrom scanned.2 rest
    else findFrom scanned.2 rest

def find (content : String) : List Violation :=
  findFrom (Tracker.fresh : Tracker UInt64) (scannableLines content)

def trace (found : Violation) : List LogRecord :=
  [⟨.trace, "tmpl_lint::rules::mismatched_quotes",
    ruleId ++ " at line " ++ toString found.line ++ ": " ++ found.text⟩]

def rule : Rule where
  id := ruleId
  name := "mismatchedQuotes"
  shortDescription := "Mismatched quotes should be removed or paired with a closing quote."
  fullDescription := "Mismatched quotes should be removed or paired with a closing quote."
  level := .warning
  run := find
  trace := trace

end QuoteLint.MismatchedQuotes
