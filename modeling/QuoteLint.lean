import QuoteLint.Main
import QuoteLint.Proofs.Quote.Parity
import QuoteLint.Proofs.Quote.Expression
import QuoteLint.Proofs.Quote.Balance
import QuoteLint.Proofs.Document.Numbering
import QuoteLint.Proofs.Quote.BrokenLine
import QuoteLint.Proofs.Document.PassedOver
import QuoteLint.Proofs.Document.Composition
import QuoteLint.Proofs.Text.Utf8
import QuoteLint.Proofs.Text.ByteOrder
import QuoteLint.Proofs.NameMap
import QuoteLint.Proofs.Registry.Steps
import QuoteLint.Proofs.Registry.History
import QuoteLint.Proofs.Lint.Findings
import QuoteLint.Proofs.Lint.Independence
import QuoteLint.Proofs.Lint.Builtin
import QuoteLint.Proofs.Editor.Hovers
import QuoteLint.Proofs.Editor.History
import QuoteLint.Proofs.Editor.LineEnds
import QuoteLint.Proofs.Editor.Ranges
import QuoteLint.Proofs.Editor.Coherence
import QuoteLint.Proofs.Settings.Layers
import QuoteLint.Proofs.Settings.Extensions
import QuoteLint.Proofs.Settings.Precedence
import QuoteLint.Proofs.Settings.Failure
import QuoteLint.Proofs.Editor.Agreement
import QuoteLint.Proofs.Files.Lookup
import QuoteLint.Proofs.Files.Order
import QuoteLint.Proofs.Files.Collection
import QuoteLint.Proofs.Files.Rewriting
import QuoteLint.Proofs.Files.Paths
import QuoteLint.Proofs.Files.Unicode
import QuoteLint.Proofs.Linter.Run
import QuoteLint.Proofs.Linter.Watching
import QuoteLint.Proofs.Json.Grammar
import QuoteLint.Proofs.Json.Printing
import QuoteLint.Proofs.Report.RoundTrip
import QuoteLint.Proofs.Quote.Verdict
import QuoteLint.Proofs.Quote.LineBreak
import QuoteLint.Proofs.Text.CharSet
import QuoteLint.Proofs.Pattern.Places
import QuoteLint.Proofs.Pattern.Words
import QuoteLint.Proofs.Pattern.Reader
import QuoteLint.Proofs.Scalar.Keyed
import QuoteLint.Proofs.Scalar.DoubleQuoted
import QuoteLint.Proofs.Scalar.SingleQuoted
import QuoteLint.Proofs.Quote.Markers
import QuoteLint.Proofs.Quote.Evidence
import QuoteLint.Proofs.Report.TextLines
import QuoteLint.Proofs.Settings.Disabling
