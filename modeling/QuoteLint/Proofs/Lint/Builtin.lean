import QuoteLint.Lint
import QuoteLint.Proofs.Quote.Run
import QuoteLint.Proofs.Registry.Steps

/-! The rules that come with the linter, under a user's settings. Settings switch rules off and take
none away, and what is left is one rule, whose findings are reported in the order in which it makes
them. -/

namespace QuoteLint

namespace RuleSettings

theorem disableAll_rules (registry : Registry) (ids : List String) :
    (disableAll registry ids).1.rules = registry.rules := by
  induction ids generalizing registry with
  | nil => rfl
  | cons id rest ih =>
      have tail := ih (registry.disable id).2
      rw [registry.disable_rules] at tail
      exact tail

theorem mem_disableAll (registry : Registry) (ids : List String) (other : String) :
    other ∈ (disableAll registry ids).1.disabled ↔
      other ∈ registry.disabled ∨ (other ∈ ids ∧ registry.rules.contains other = true) := by
  induction ids generalizing registry with
  | nil => simp [disableAll]
  | cons id rest ih =>
      have tail : other ∈ (disableAll registry (id :: rest)).1.disabled ↔ _ :=
        ih (registry.disable id).2
      rw [tail, registry.mem_disable, registry.disable_rules, List.mem_cons]
      constructor
      · rintro ((before | ⟨rfl, known⟩) | ⟨listed, known⟩)
        · exact .inl before
        · exact .inr ⟨.inl rfl, known⟩
        · exact .inr ⟨.inr listed, known⟩
      · rintro (before | ⟨rfl | listed, known⟩)
        · exact .inl (.inl before)
        · exact .inl (.inr ⟨rfl, known⟩)
        · exact .inr ⟨listed, known⟩

open MismatchedQuotes (rule ruleId)

theorem buildRegistry_rules (settings : RuleSettings) :
    settings.buildRegistry.1.rules = Registry.builtin.rules :=
  disableAll_rules .builtin settings.disabled

theorem buildRegistry_get? (settings : RuleSettings) :
    settings.buildRegistry.1.get? ruleId = some rule := by
  rw [Registry.get?, buildRegistry_rules]
  rfl

theorem buildRegistry_enabled (settings : RuleSettings) :
    settings.buildRegistry.1.enabled = if ruleId ∈ settings.disabled then [] else [rule] := by
  have known : Registry.builtin.rules.contains ruleId = true := rfl
  have unset : Registry.builtin.disabled = [] := rfl
  have off : ruleId ∈ settings.buildRegistry.1.disabled ↔ ruleId ∈ settings.disabled := by
    have listed : ruleId ∈ settings.buildRegistry.1.disabled ↔ _ :=
      mem_disableAll .builtin settings.disabled ruleId
    rw [listed, unset, known]
    simp
  have all : settings.buildRegistry.1.list = [rule] := by
    rw [Registry.list, buildRegistry_rules]
    rfl
  rw [Registry.enabled, all]
  by_cases disabled : ruleId ∈ settings.disabled
  · rw [if_pos disabled]
    have kept := off.mpr disabled
    simpa [rule] using kept
  · rw [if_neg disabled]
    have kept := mt off.mp disabled
    simpa [rule] using kept

end RuleSettings

namespace Diagnostic

theorem le_of_line_lt (a b : Diagnostic) (less : a.line < b.line) : le a b = true := by
  simp [le, less]

end Diagnostic

theorem diagnosticsOf_increasing (settings : RuleSettings) (content : String) :
    (diagnosticsOf settings content MismatchedQuotes.rule).Pairwise
      fun earlier later => earlier.line < later.line := by
  apply List.Pairwise.map _ _ (MismatchedQuotes.find_increasing content)
  intro earlier later less
  exact less

theorem lint_buildRegistry (settings : RuleSettings) (content : String) :
    (lint settings.buildRegistry.1 settings content).diagnostics =
      if MismatchedQuotes.ruleId ∈ settings.disabled then []
      else diagnosticsOf settings content MismatchedQuotes.rule := by
  rw [lint, settings.buildRegistry_enabled]
  split
  · simp
  · rw [List.flatMap_singleton]
    apply List.mergeSort_of_pairwise
    exact (diagnosticsOf_increasing settings content).imp fun less =>
      Diagnostic.le_of_line_lt _ _ less

theorem lint_buildRegistry_increasing (settings : RuleSettings) (content : String) :
    (lint settings.buildRegistry.1 settings content).diagnostics.Pairwise
      fun earlier later => earlier.line < later.line := by
  rw [lint_buildRegistry]
  split
  · exact .nil
  · exact diagnosticsOf_increasing settings content

theorem line_of_mem_lint (settings : RuleSettings) (content : String) (diagnostic : Diagnostic)
    (member : diagnostic ∈ (lint settings.buildRegistry.1 settings content).diagnostics) :
    ∃ line ∈ scannableLines content, ∃ level,
      diagnostic = Diagnostic.ofViolation level (MismatchedQuotes.violation line) := by
  rw [lint_buildRegistry] at member
  split at member
  · cases member
  · rcases List.mem_map.mp member with ⟨found, present, rfl⟩
    rcases MismatchedQuotes.line_of_mem_findFrom _ _ found present with ⟨line, scanned, rfl⟩
    exact ⟨line, scanned, _, rfl⟩

/-- A reported line is there, is neither blank nor a comment, and is reported with its trimmed
text. -/
theorem scanned_of_mem_lint (settings : RuleSettings) (content : String) (diagnostic : Diagnostic)
    (member : diagnostic ∈ (lint settings.buildRegistry.1 settings content).diagnostics) :
    diagnostic.ruleId = MismatchedQuotes.ruleId ∧
      ∃ index raw, (physicalLines content)[index]? = some raw ∧ diagnostic.line = index + 1 ∧
        (Line.ofRaw (index + 1) raw).isSkipped = false ∧
          diagnostic.sourceLine = String.ofList (Text.trim raw) := by
  rcases line_of_mem_lint settings content diagnostic member with ⟨line, scanned, level, rfl⟩
  rcases exists_row_of_mem_scannableLines content line scanned with ⟨index, raw, row, rfl, kept⟩
  exact ⟨rfl, index, raw, row, rfl, kept, rfl⟩

end QuoteLint
