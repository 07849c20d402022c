import QuoteLint.Proofs.Document.PassedOver
import QuoteLint.Proofs.Quote.Markers
import QuoteLint.Proofs.Scalar.Keyed

/-! What a reported line has to show for itself. The state carried to a line can be anything, and
never suffices to blame the line: a quote has to stand on it, and a close marker or the quoted value
of a key. -/

namespace QuoteLint

namespace Tracker

variable {κ : Type} [Tally κ]

theorem quote_of_countsRise {text : List Char} {start now : Tracker κ}
    (rise : CountsRise text start now) (turned : turnedOdd start now = true) :
    '"' ∈ text ∨ '\'' ∈ text := by
  by_contra absent
  rw [not_or] at absent
  rcases rise with ⟨⟨times, few, singles⟩, ⟨others, scarce, doubles⟩⟩
  rw [List.count_eq_zero.mpr absent.2, Nat.le_zero] at few
  rw [List.count_eq_zero.mpr absent.1, Nat.le_zero] at scarce
  have same : turnedOdd start now = turnedOdd start start := by
    rw [turnedOdd, singles, doubles, few, scarce]
    rfl
  rw [same, turnedOdd_self] at turned
  cases turned

end Tracker

theorem Scalar.mem_of_keyed {text value : List Char} (keyed : Keyed text value) {c : Char}
    (member : c ∈ value) : c ∈ text := by
  rcases keyed with ⟨before, key, between, after, rfl, -⟩
  simp [member]

namespace MismatchedQuotes

open Scalar (Keyed)

/-- A key and a colon stand at the front, and behind them a quote. -/
def HasQuotedValue (text : List Char) : Prop :=
  ∃ quote rest, (quote = '"' ∨ quote = '\'') ∧ Keyed text (quote :: rest)

structure HasEvidence (text : List Char) : Prop where
  quote : '"' ∈ text ∨ '\'' ∈ text
  place : ['}', '}'] <:+: text ∨ HasQuotedValue text

theorem evidence_of_quotedValue {text : List Char} (quoted : HasQuotedValue text) :
    HasEvidence text := by
  refine ⟨?_, .inr quoted⟩
  rcases quoted with ⟨_, rest, rfl | rfl, keyed⟩
  · exact .inl (Scalar.mem_of_keyed keyed List.mem_cons_self)
  · exact .inr (Scalar.mem_of_keyed keyed List.mem_cons_self)

theorem quotedValue_of_isBadScalar {text : List Char} (bad : isBadScalar text = true) :
    HasQuotedValue text := by
  rw [isBadScalar, Bool.or_eq_true] at bad
  rcases bad with double | single
  · rw [Scalar.isBadDouble] at double
    split at double
    · next rest found => exact ⟨'"', rest, .inl rfl, Scalar.keyed_of_value? text _ found⟩
    · cases double
  · rw [Scalar.isBadSingle] at single
    split at single
    · next rest found => exact ⟨'\'', rest, .inr rfl, Scalar.keyed_of_value? text _ found⟩
    · cases single

variable {κ : Type} [Tally κ]

theorem evidence_of_scan (t : Tracker κ) (text : List Char) (stopped : (t.scan text).1 = true) :
    HasEvidence text := by
  have reading := Tracker.reading_scanFrom t.atLineStart t.atLineStart false text
  have turned := (reading.closed_of_stopped stopped).2
  rcases Tracker.scanFrom_stopped _ _ _ text stopped with ⟨front, back, whole, -, -⟩
  exact ⟨Tracker.quote_of_countsRise reading.countsRise turned, .inl ⟨front, back, by simp [whole]⟩⟩

theorem evidence_of_flagged (t : Tracker κ) (text : List Char)
    (flagged : ((t.scan text).1 || isBadScalar text) = true) : HasEvidence text := by
  rcases Bool.or_eq_true_iff.mp flagged with stopped | bad
  · exact evidence_of_scan t text stopped
  · exact evidence_of_quotedValue (quotedValue_of_isBadScalar bad)

theorem evidence_of_mem_findFrom (t : Tracker κ) (lines : List Line) (found : Violation)
    (member : found ∈ findFrom t lines) : HasEvidence found.text.toList := by
  induction lines generalizing t with
  | nil => cases member
  | cons line rest ih =>
      rw [findFrom] at member
      split at member
      · next flagged =>
          rcases List.mem_cons.mp member with rfl | later
          · exact evidence_of_flagged t line.text.toList flagged
          · exact ih _ later
      · exact ih _ member

theorem findFrom_cons_of_plain (t : Tracker κ) (line : Line) (rest : List Line)
    (unclosed : ¬ ['}', '}'] <:+: line.text.toList) (unquoted : ¬ HasQuotedValue line.text.toList) :
    findFrom t (line :: rest) = findFrom (t.scan line.text.toList).2 rest := by
  rw [findFrom, if_neg]
  intro flagged
  rcases (evidence_of_flagged t line.text.toList flagged).place with closed | quoted
  · exact unclosed closed
  · exact unquoted quoted

theorem row_of_mem_find (content : String) (found : Violation) (member : found ∈ find content) :
    ∃ raw, (physicalLines content)[found.line - 1]? = some raw ∧
      ¬ IsPassedOver (String.ofList raw) ∧
      found.text.toList = Text.trim raw := by
  rcases line_of_mem_findFrom _ _ found member with ⟨line, scanned, rfl⟩
  rcases exists_row_of_mem_scannableLines content line scanned with ⟨index, raw, row, rfl, kept⟩
  refine ⟨raw, row, ?_, String.toList_ofList⟩
  intro passed
  have skipped := isSkipped_ofRaw (index + 1) (String.ofList raw) passed
  rw [String.toList_ofList, kept] at skipped
  cases skipped

/-- The findings in a document come in the order of their lines, at most one for each, and each on a
line that the document has, that is neither blank nor a comment, whose trimmed text it repeats and
that shows a quote and either a close marker or a quoted value. Without the last two, a line is
passed over in every state. -/
theorem findings_show_evidence (content : String) :
    ((find content).Pairwise fun earlier later => earlier.line < later.line) ∧
    (∀ found ∈ find content,
      1 ≤ found.line ∧ found.line ≤ content.toList.count '\n' + 1 ∧
      (∃ raw, (physicalLines content)[found.line - 1]? = some raw ∧
        ¬ IsPassedOver (String.ofList raw) ∧
        found.text.toList = Text.trim raw) ∧
      ('"' ∈ found.text.toList ∨ '\'' ∈ found.text.toList) ∧
      (['}', '}'] <:+: found.text.toList ∨ HasQuotedValue found.text.toList)) ∧
    ∀ (t : Tracker UInt64) (line : Line) (rest : List Line),
      ¬ ['}', '}'] <:+: line.text.toList → ¬ HasQuotedValue line.text.toList →
      findFrom t (line :: rest) = findFrom (t.scan line.text.toList).2 rest := by
  refine ⟨find_increasing content, ?_, findFrom_cons_of_plain⟩
  intro found member
  have bounds := line_bounds_of_mem_findFrom _ content found member
  rw [length_physicalLines] at bounds
  have evidence := evidence_of_mem_findFrom _ _ found member
  exact ⟨bounds.1, bounds.2, row_of_mem_find content found member, evidence.quote, evidence.place⟩

theorem findings_show_evidence_below_open_quote :
    let content := "# it's\n\x7b\x7b 'a\n'b'\n \"c \x7d\x7d\n\nname: 'd''e'"
    let closing := violation ⟨4, "\"c \x7d\x7d"⟩
    let scalar := violation ⟨6, "name: 'd''e'"⟩
    let entered : Tracker UInt64 := ⟨true, 1, 0⟩
    let middle : Line := ⟨3, "'b'"⟩
    find content = [closing, scalar] ∧
      (['}', '}'] <:+: closing.text.toList ∨ HasQuotedValue closing.text.toList) ∧
      (['}', '}'] <:+: scalar.text.toList ∨ HasQuotedValue scalar.text.toList) ∧
      findFrom entered [middle] = findFrom (entered.scan middle.text.toList).2 [] := by
  intro content closing scalar entered middle
  have found : find content = [closing, scalar] := by decide +kernel
  have first : closing ∈ find content := by simp [found]
  have second : scalar ∈ find content := by simp [found]
  have plain : ¬ HasQuotedValue middle.text.toList := by
    intro quoted
    rcases quoted with ⟨quote, rest, kind, keyed⟩
    have other : Scalar.isSpacing quote = false := by rcases kind with rfl | rfl <;> rfl
    have read := Scalar.value?_of_keyed _ quote rest keyed other
    have missing : Scalar.value? middle.text.toList = none := by decide +kernel
    rw [missing] at read
    cases read
  rcases findings_show_evidence content with ⟨-, shown, passed⟩
  exact ⟨found, (shown closing first).2.2.2.2, (shown scalar second).2.2.2.2,
    passed entered middle [] (by decide +kernel) plain⟩

end MismatchedQuotes

end QuoteLint
