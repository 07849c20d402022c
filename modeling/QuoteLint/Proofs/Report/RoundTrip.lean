import QuoteLint.Proofs.Files.Lookup
import QuoteLint.Proofs.Json.Printing
import QuoteLint.Report

/-! A report in JSON can be read back: it spells one value, and from that value the reports can be
told. -/

namespace QuoteLint

theorem Severity.ofName?_name (severity : Severity) : ofName? severity.name = some severity := by
  cases severity <;> rfl

namespace Report

/-- The values of an object that has these fields, in this order, and no others. -/
def valuesOf? (names : List String) : Json → Option (List Json)
  | .object fields => if fields.map (·.1) = names then some (fields.map (·.2)) else none
  | _ => none

def diagnosticOf? (json : Json) : Option Diagnostic :=
  match valuesOf? ["line", "rule_id", "message", "short_message", "source_line",
    "severity"] json with
  | some [.int line, .text ruleId, .text message, .text shortMessage, .text sourceLine,
      .text severity] =>
    if line < 0 then none
    else (Severity.ofName? severity).map fun severity =>
      { line := line.toNat, ruleId, message, shortMessage, sourceLine, severity }
  | _ => none

def reportOf? (json : Json) : Option FileReport :=
  match valuesOf? ["path", "diagnostics"] json with
  | some [.text path, .list items] =>
    (items.mapM diagnosticOf?).map fun diagnostics =>
      { path := .ofText path, result := ⟨diagnostics⟩ }
  | _ => none

def reportsOf? : Json → Option (List FileReport)
  | .list items => items.mapM reportOf?
  | _ => none

theorem mapM_map_of_inverse {α β : Type} (encode : α → β) (decode : β → Option α)
    (inverse : ∀ a, decode (encode a) = some a) (all : List α) :
    (all.map encode).mapM decode = some all := by
  induction all with
  | nil => rfl
  | cons a rest ih => simp [inverse, ih]

theorem diagnosticOf?_diagnosticJson (diagnostic : Diagnostic) :
    diagnosticOf? (diagnosticJson diagnostic) = some diagnostic := by
  have positive : ¬ (diagnostic.line : Int) < 0 := by omega
  simp [diagnosticOf?, diagnosticJson, valuesOf?, positive, Severity.ofName?_name]

theorem reportOf?_reportJson (path : String) (result : LintResult) :
    reportOf? (reportJson path result) = some ⟨.ofText path, result⟩ := by
  have inside := mapM_map_of_inverse _ _ diagnosticOf?_diagnosticJson result.diagnostics
  simp [reportOf?, reportJson, valuesOf?, inside]

def formOf (report : FileReport) : Json := reportJson report.path.display report.result

section Texts

variable {report : FileReport} {reports : List FileReport}

theorem reportJson?_of_isText (text : report.path.IsText) :
    reportJson? report = some (formOf report) := by
  rcases text with ⟨path, same⟩
  rw [reportJson?, formOf, same, Path.text?_ofText, Path.display_ofText]
  rfl

theorem reportOf?_formOf (text : report.path.IsText) : reportOf? (formOf report) = some report := by
  rcases text with ⟨path, same⟩
  rw [formOf, reportOf?_reportJson, same, Path.display_ofText, ← same]

theorem mapM_reportJson? (texts : ∀ report ∈ reports, report.path.IsText) :
    reports.mapM reportJson? = some (reports.map formOf) := by
  induction reports with
  | nil => rfl
  | cons report rest ih =>
      rcases List.forall_mem_cons.mp texts with ⟨first, later⟩
      simp [reportJson?_of_isText first, ih later]

theorem reportsOf?_list (texts : ∀ report ∈ reports, report.path.IsText) :
    reportsOf? (.list (reports.map formOf)) = some reports := by
  rw [reportsOf?]
  induction reports with
  | nil => rfl
  | cons report rest ih =>
      rcases List.forall_mem_cons.mp texts with ⟨first, later⟩
      simp [reportOf?_formOf first, ih later]

end Texts

open Json (IsPrintable IsBlank Value Element)

theorem isPrintable_diagnosticJson (diagnostic : Diagnostic) :
    IsPrintable (diagnosticJson diagnostic) := by
  apply IsPrintable.object
  simp [IsPrintable.int, IsPrintable.text]

theorem isPrintable_formOf (report : FileReport) : IsPrintable (formOf report) := by
  have inside : IsPrintable (.list (report.result.diagnostics.map diagnosticJson)) := by
    apply IsPrintable.list
    simp [isPrintable_diagnosticJson]
  apply IsPrintable.object
  simp [IsPrintable.text, inside]

def documentOf (reports : List FileReport) : List Char := (Json.list (reports.map formOf)).pretty 0

theorem value_documentOf (reports : List FileReport) :
    Value (.list (reports.map formOf)) (documentOf reports) := by
  apply Json.value_pretty
  apply IsPrintable.list
  simp [isPrintable_formOf]

theorem read?_documentOf (reports : List FileReport) :
    Json.read? (documentOf reports ++ ['\n']) = some (.list (reports.map formOf)) := by
  have lineEnd : IsBlank ['\n'] := by simp [IsBlank, Json.isSpace]
  have spelled := value_documentOf reports
  have document := Element.padded [] (documentOf reports) ['\n'] Json.isBlank_nil spelled lineEnd
  exact Json.read?_of_element document

theorem write_json {reports : List FileReport} (texts : ∀ report ∈ reports, report.path.IsText) :
    write .json reports = ⟨String.ofList (documentOf reports ++ ['\n']), none⟩ := by
  rw [write, json, mapM_reportJson? texts]
  rfl

theorem write_json_inj {reports others : List FileReport}
    (texts : ∀ report ∈ reports, report.path.IsText)
    (more : ∀ report ∈ others, report.path.IsText) :
    write .json reports = write .json others ↔ reports = others := by
  constructor
  · intro same
    rw [write_json texts, write_json more, Written.mk.injEq, String.ofList_inj] at same
    have read := read?_documentOf reports
    rw [same.1, read?_documentOf others, Option.some.injEq] at read
    have told := reportsOf?_list texts
    rw [← read, reportsOf?_list more, Option.some.injEq] at told
    exact told.symm
  · intro same
    rw [same]

/-- What is written is one document and a line end. The document spells a single value, the reader
finds it, and the reports are told from it; so other reports are written in another way. -/
theorem write_json_reads_back :
    (∀ reports : List FileReport, (∀ report ∈ reports, report.path.IsText) →
      ∃ document value, write .json reports = ⟨String.ofList (document ++ ['\n']), none⟩ ∧
        (∀ other, Value other document ↔ other = value) ∧
        Json.read? (document ++ ['\n']) = some value ∧ reportsOf? value = some reports) ∧
    ∀ reports others : List FileReport, (∀ report ∈ reports, report.path.IsText) →
      (∀ report ∈ others, report.path.IsText) →
        (write .json reports = write .json others ↔ reports = others) := by
  refine ⟨?_, fun reports others => write_json_inj⟩
  intro reports texts
  have spelled := value_documentOf reports
  refine ⟨_, _, write_json texts, ?_, read?_documentOf reports, reportsOf?_list texts⟩
  intro other
  constructor
  · intro otherSpelled
    exact Json.value_unique otherSpelled spelled
  · intro same
    rw [same]
    exact spelled

theorem write_json_reads_back_odd_path :
    let finding : Diagnostic := ⟨18446744073709551615, "\\", "\u0001", "é", "\"", .info⟩
    let reports : List FileReport := [⟨.ofText "a\"\n😀", ⟨[finding]⟩⟩, ⟨.ofText "", ⟨[]⟩⟩]
    (∀ report ∈ reports, report.path.IsText) ∧
      ∃ document value, write .json reports = ⟨String.ofList (document ++ ['\n']), none⟩ ∧
        Json.read? (document ++ ['\n']) = some value ∧ reportsOf? value = some reports := by
  intro finding reports
  have texts : ∀ report ∈ reports, report.path.IsText := by
    intro report member
    rcases List.mem_cons.mp member with rfl | member
    · exact ⟨_, rfl⟩
    · rw [List.mem_singleton.mp member]
      exact ⟨_, rfl⟩
  rcases write_json_reads_back.1 reports texts with ⟨document, value, written, -, read, told⟩
  exact ⟨texts, document, value, written, read, told⟩

end Report

end QuoteLint
