import QuoteLint.Editor.Document
import QuoteLint.Proofs.Lint.Builtin
import QuoteLint.Proofs.Text.Utf8

/-! Hovers and findings. A hover cuts the document anew, judges its line anew and looks up the rules
of the findings there; still it shows up on the reported lines and on no others. -/

namespace QuoteLint

theorem LintResult.onLine_of_increasing (result : LintResult)
    (increasing : result.diagnostics.Pairwise fun earlier later => earlier.line < later.line)
    (diagnostic : Diagnostic) (member : diagnostic ∈ result.diagnostics) :
    result.onLine diagnostic.line = [diagnostic] := by
  obtain ⟨front, back, cut⟩ := List.append_of_mem member
  rw [cut, List.pairwise_append, List.pairwise_cons] at increasing
  obtain ⟨-, ⟨later, -⟩, earlier⟩ := increasing
  have above : ∀ other ∈ front, ¬ (other.line == diagnostic.line) = true := by
    intro other present
    have less := earlier other present diagnostic (by simp)
    simp only [beq_iff_eq]
    omega
  have below : ∀ other ∈ back, ¬ (other.line == diagnostic.line) = true := by
    intro other present
    have less := later other present
    simp only [beq_iff_eq]
    omega
  rw [onLine, cut, List.filter_append, List.filter_eq_nil_iff.mpr above,
    List.filter_cons_of_pos (by simp), List.filter_eq_nil_iff.mpr below, List.nil_append]

namespace Editor

def hoverOver (result : LintResult) (registry : Registry) (index : Nat) (raw : List Char) :
    Option Hover :=
  let line := Line.ofRaw (index + 1) raw
  if line.isSkipped then none
  else (hoverMarkdown? result registry (index + 1)).map fun markdown =>
    let start := (Text.units (raw.takeWhile Text.isBlank)).toUInt32
    ⟨markdown, ⟨⟨index.toUInt32, start⟩,
      ⟨index.toUInt32, start + (Text.units line.text.toList).toUInt32⟩⟩⟩

theorem Document.hover?_eq (document : Document) (registry : Registry) (index : Nat) :
    document.hover? registry index =
      (physicalLines document.content)[index]?.bind (hoverOver document.result registry index) := by
  unfold Document.hover?
  cases row : (physicalLines document.content)[index]? with
  | none => rfl
  | some raw =>
      cases text : hoverMarkdown? document.result registry (index + 1) with
      | none => simp [hoverOver, text, Line.ofRaw]
      | some markdown => simp [hoverOver, text, Line.ofRaw, Text.takeBytes?_indentBytes]

theorem range_of_hover? (document : Document) (registry : Registry) (index : Nat) (hover : Hover)
    (raw : List Char) (row : (physicalLines document.content)[index]? = some raw)
    (shown : document.hover? registry index = some hover) :
    hover.range = ⟨⟨index.toUInt32, (Text.units (raw.takeWhile Text.isBlank)).toUInt32⟩,
      ⟨index.toUInt32,
        (Text.units (raw.takeWhile Text.isBlank)).toUInt32 +
          (Text.units (Text.trim raw)).toUInt32⟩⟩ := by
  rw [document.hover?_eq, row, Option.bind_some] at shown
  simp only [hoverOver] at shown
  split at shown
  · cases shown
  · rcases Option.map_eq_some_iff.mp shown with ⟨markdown, -, same⟩
    rw [← same, Line.ofRaw, String.toList_ofList]

section Builtin

variable (settings : RuleSettings) (content : String)

theorem hoverMarkdown?_of_reported (diagnostic : Diagnostic)
    (member : diagnostic ∈ (lint settings.buildRegistry.1 settings content).diagnostics) :
    hoverMarkdown? (lint settings.buildRegistry.1 settings content) settings.buildRegistry.1
      diagnostic.line =
      some (ruleSection MismatchedQuotes.rule) := by
  have single :=
    LintResult.onLine_of_increasing _ (lint_buildRegistry_increasing settings content) _ member
  have known : settings.buildRegistry.1.get? diagnostic.ruleId = some MismatchedQuotes.rule := by
    rw [(scanned_of_mem_lint settings content diagnostic member).1, settings.buildRegistry_get?]
  simp [hoverMarkdown?, single, known]

theorem hover?_of_reported (diagnostic : Diagnostic)
    (member : diagnostic ∈ (lint settings.buildRegistry.1 settings content).diagnostics)
    (index : Nat) (line : diagnostic.line = index + 1) :
    ((Document.ofText settings.buildRegistry.1 settings content).hover?
      settings.buildRegistry.1 index).isSome = true := by
  obtain ⟨-, place, raw, row, number, scanned, -⟩ :=
    scanned_of_mem_lint settings content diagnostic member
  obtain rfl : place = index := by omega
  have described := hoverMarkdown?_of_reported settings content diagnostic member
  rw [number] at described
  rw [Document.hover?_eq, Document.ofText, row]
  simp [hoverOver, scanned, described]

end Builtin

end Editor

end QuoteLint
