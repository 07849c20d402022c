import Mathlib.Data.List.Basic
import QuoteLint.Proofs.Document.Composition
import QuoteLint.Proofs.Lint.Builtin
import QuoteLint.Proofs.Text.Utf8
import QuoteLint.Report

/-! The report in text can be read line by line. Each part of a line comes from a place where no
newline can get in: the rule's own texts, numbers, and lines of a document, which are what stands
between its newlines. -/

namespace QuoteLint

theorem Text.trim_sublist (cs : List Char) : (Text.trim cs).Sublist cs := by
  have ends := (List.dropWhile_sublist (l := (Text.trimStart cs).reverse) Text.isBlank).reverse
  rw [List.reverse_reverse] at ends
  exact ends.trans (List.dropWhile_sublist _)

structure LintedFile where
  path : Path
  settings : RuleSettings
  content : String

namespace LintedFile

def result (file : LintedFile) : LintResult :=
  lint file.settings.buildRegistry.1 file.settings file.content

def diagnostics (file : LintedFile) : List Diagnostic := file.result.diagnostics

def report (file : LintedFile) : FileReport := ⟨file.path, file.result⟩

def row (file : LintedFile) (number : Nat) : List Char :=
  (physicalLines file.content).getD (number - 1) []

end LintedFile

namespace Report

def IsOneLine (text : String) : Prop := '\n' ∉ text.toList

instance (text : String) : Decidable (IsOneLine text) := inferInstanceAs (Decidable (_ ∉ _))

theorem isOneLine_append (front back : String) :
    IsOneLine (front ++ back) ↔ IsOneLine front ∧ IsOneLine back := by
  simp [IsOneLine]

theorem isOneLine_number (n : Nat) : IsOneLine (toString n) := by
  intro member
  rw [Nat.toString_eq_ofList_toDigits, String.toList_ofList] at member
  exact absurd (Nat.isDigit_of_mem_toDigits (by decide) (by decide) member) (by decide)

theorem isOneLine_integer (n : Int) : IsOneLine (toString n) := by
  cases n with
  | ofNat n => exact isOneLine_number n
  | negSucc n =>
      have signed : toString (Int.negSucc n) = "-" ++ toString (n + 1) := rfl
      rw [signed, isOneLine_append]
      exact ⟨by decide, isOneLine_number (n + 1)⟩

theorem isOneLine_severity (severity : Severity) : IsOneLine severity.name := by
  cases severity <;> decide

def ended (lines : List String) : String := String.join (lines.map (· ++ "\n"))

theorem ended_append (front back : List String) :
    ended (front ++ back) = ended front ++ ended back := by
  rw [ended, List.map_append, String.join_append, ended, ended]

theorem ended_flatMap {α : Type} (parts : List α) (lines : α → List String) :
    ended (parts.flatMap lines) = String.join (parts.map fun part => ended (lines part)) := by
  induction parts with
  | nil => rfl
  | cons part rest ih => rw [List.flatMap_cons, ended_append, ih, List.map_cons, String.join_cons]

theorem physicalLines_ended (lines : List String) (single : ∀ line ∈ lines, IsOneLine line) :
    physicalLines (ended lines) = (lines ++ [""]).map String.toList := by
  induction lines with
  | nil => rfl
  | cons line rest ih =>
      have later := ih fun other member => single other (List.mem_cons_of_mem line member)
      have first : physicalLines line = [line.toList] :=
        List.splitOn_eq_singleton (single line List.mem_cons_self)
      calc
        physicalLines (ended (line :: rest)) = physicalLines (line ++ "\n" ++ ended rest) := by
          rw [ended, List.map_cons, String.join_cons, ← ended]
        _ = [line.toList] ++ (rest ++ [""]).map String.toList := by
          rw [physicalLines_join, first, later]
        _ = (line :: rest ++ [""]).map String.toList := rfl

/-! ## The lines of a report -/

def header (path : Path) (diagnostic : Diagnostic) : String :=
  path.display ++ ":" ++ toString diagnostic.line ++ ": " ++ diagnostic.severity.name ++ " [" ++
    diagnostic.ruleId ++
    "] " ++ diagnostic.message

def entryLines (path : Path) (diagnostic : Diagnostic) (source : String) : List String :=
  [header path diagnostic, "    " ++ source]

def summaryLine (total : Int) (withFindings all : Nat) : String :=
  toString total ++ " problem(s) in " ++ toString withFindings ++ " of " ++ toString all ++
    " file(s)"

def reportLines (report : FileReport) : List String :=
  report.result.diagnostics.flatMap fun diagnostic =>
    entryLines report.path diagnostic diagnostic.sourceLine

theorem diagnosticText_eq (path : Path) (diagnostic : Diagnostic) :
    diagnosticText path diagnostic = ended (entryLines path diagnostic diagnostic.sourceLine) := by
  have indented : "\n    " = "\n" ++ "    " := rfl
  simp only [diagnosticText, ended, entryLines, header, List.map_cons, List.map_nil,
    String.join_cons, String.join_nil, indented, String.append_assoc, String.append_empty]

theorem reportText_eq (report : FileReport) : reportText report = ended (reportLines report) := by
  have each : diagnosticText report.path = fun diagnostic =>
      ended (entryLines report.path diagnostic diagnostic.sourceLine) :=
        funext (diagnosticText_eq report.path)
  rw [reportText, each, reportLines, ended_flatMap]

theorem foldl_count (found : List Diagnostic) (before : Int32) :
    found.foldl (fun total _ => total + 1) before = before + Int32.ofNat found.length := by
  induction found generalizing before with
  | nil => simp
  | cons diagnostic rest ih =>
      rw [List.foldl_cons, ih, List.length_cons, Nat.add_comm, Int32.ofNat_add, Int32.add_assoc]
      rfl

theorem total_eq (reports : List FileReport) :
    total reports = Int32.ofNat (reports.flatMap (·.result.diagnostics)).length := by
  have step (before : Int32) :
      reports.foldl
          (fun total report => report.result.diagnostics.foldl (fun total _ => total + 1) total)
            before =
        before + Int32.ofNat (reports.flatMap (·.result.diagnostics)).length := by
    induction reports generalizing before with
    | nil => simp
    | cons report rest ih =>
        rw [List.foldl_cons, ih, foldl_count, List.flatMap_cons, List.length_append,
          Int32.ofNat_add, Int32.add_assoc]
  rw [total, step, Int32.zero_add]

/-- What a signed word of 32 bits shows once it has counted so far. -/
def shownCount (count : Nat) : Int := (count : Int).bmod 0x100000000

theorem shownCount_of_lt {count : Nat} (few : count < 0x80000000) : shownCount count = count := by
  apply Int.bmod_eq_of_le
  · omega
  · omega

theorem toString_total (reports : List FileReport) :
    toString (total reports) =
      toString (shownCount (reports.flatMap (·.result.diagnostics)).length) := by
  have word : toString (total reports) = toString (total reports).toInt := rfl
  have value : (total reports).toInt = shownCount (reports.flatMap (·.result.diagnostics)).length :=
    total_eq reports ▸ Int32.toInt_ofNat'
  rw [word, value]

theorem summary_eq (reports : List FileReport) :
    summary reports =
      ended [summaryLine (shownCount (reports.flatMap (·.result.diagnostics)).length)
      (reports.countP (!·.result.isClean)) reports.length] := by
  have last : " file(s)\n" = " file(s)" ++ "\n" := rfl
  simp only [summary, toString_total, ended, summaryLine, List.map_cons, List.map_nil,
    String.join_cons, String.join_nil, last, String.append_assoc, String.append_empty]

theorem text_eq_ended (reports : List FileReport) :
    text reports = ended (reports.flatMap reportLines ++
      [summaryLine (shownCount (reports.flatMap (·.result.diagnostics)).length)
        (reports.countP (!·.result.isClean)) reports.length]) := by
  have each : reportText = fun report => ended (reportLines report) := funext reportText_eq
  rw [ended_append, ended_flatMap, text, summary_eq, each]

theorem length_entries (path : Path) (found : List Diagnostic) :
    (found.flatMap fun diagnostic => entryLines path diagnostic diagnostic.sourceLine).length =
      2 * found.length := by
  induction found with
  | nil => rfl
  | cons diagnostic rest ih =>
      have two : (entryLines path diagnostic diagnostic.sourceLine).length = 2 := rfl
      rw [List.flatMap_cons, List.length_append, ih, two, List.length_cons]
      omega

theorem length_reportLines (reports : List FileReport) :
    (reports.flatMap reportLines).length = 2 * (reports.flatMap (·.result.diagnostics)).length := by
  induction reports with
  | nil => rfl
  | cons report rest ih =>
      rw [List.flatMap_cons, List.length_append, ih, reportLines, length_entries, List.flatMap_cons,
        List.length_append]
      omega

theorem isOneLine_summaryLine (total : Int) (withFindings all : Nat) :
    IsOneLine (summaryLine total withFindings all) := by
  simp only [summaryLine, isOneLine_append, isOneLine_number, isOneLine_integer, true_and, and_true]
  decide

end Report

namespace LintedFile

open Report

def lines (file : LintedFile) : List String :=
  file.diagnostics.flatMap fun diagnostic =>
    entryLines file.path diagnostic (String.ofList (Text.trim (file.row diagnostic.line)))

theorem row_of_mem_diagnostics (file : LintedFile) (diagnostic : Diagnostic)
    (member : diagnostic ∈ file.diagnostics) :
    1 ≤ diagnostic.line ∧ diagnostic.line ≤ (physicalLines file.content).length ∧
      diagnostic.sourceLine = String.ofList (Text.trim (file.row diagnostic.line)) ∧
      IsOneLine diagnostic.sourceLine := by
  rcases scanned_of_mem_lint _ _ diagnostic member with ⟨-, index, raw, found, number, -, source⟩
  have row : file.row diagnostic.line = raw := by
    rw [row, number, Nat.add_sub_cancel, List.getD_eq_getElem?_getD, found]
    rfl
  have inside := (List.getElem?_eq_some_iff.mp found).1
  refine ⟨by omega, by omega, by rw [row, source], ?_⟩
  intro newline
  rw [source, String.toList_ofList] at newline
  exact newline_not_mem_physicalLines _ raw (List.mem_of_getElem? found)
    ((Text.trim_sublist raw).subset newline)

theorem lines_eq_reportLines (file : LintedFile) : file.lines = reportLines file.report := by
  rw [lines, reportLines, List.flatMap_def, List.flatMap_def]
  apply congrArg List.flatten
  apply List.map_congr_left
  intro diagnostic member
  rw [← (file.row_of_mem_diagnostics diagnostic member).2.2.1]
  rfl

theorem isOneLine_of_mem_lines (file : LintedFile) (unbroken : 0x0a ∉ file.path.bytes)
    (line : String) (member : line ∈ file.lines) : IsOneLine line := by
  have path : IsOneLine file.path.display := mt Text.newline_of_mem_display unbroken
  -- The report holds the source line itself, so it is enough to look at what was found.
  rw [lines_eq_reportLines] at member
  rcases List.mem_flatMap.mp member with ⟨diagnostic, found, written⟩
  rcases line_of_mem_lint _ _ diagnostic found with ⟨scanned, -, level, own⟩
  have source := (file.row_of_mem_diagnostics diagnostic found).2.2.2
  have first : IsOneLine (header file.path diagnostic) := by
    have rule : IsOneLine MismatchedQuotes.ruleId := by decide
    have message : IsOneLine "Unmatched or invalid quote detected." := by decide
    have texts : IsOneLine diagnostic.ruleId ∧ IsOneLine diagnostic.message := by
      rw [own]
      exact ⟨rule, message⟩
    simp only [header, isOneLine_append, path, isOneLine_number, isOneLine_severity, texts,
      true_and, and_true]
    decide
  rcases List.mem_cons.mp written with rfl | second
  · exact first
  · rw [List.mem_singleton.mp second, isOneLine_append]
    exact ⟨by decide, source⟩

end LintedFile

namespace Report

def foundIn (files : List LintedFile) : Nat := (files.flatMap LintedFile.diagnostics).length

/-- The lines of the report on some files: two for each finding, and a total with the counts of the
files with findings and of all files. -/
def textLines (files : List LintedFile) (total : Int) : List String :=
  files.flatMap LintedFile.lines ++
    [summaryLine total (files.countP (!·.diagnostics.isEmpty)) files.length]

theorem write_text (files : List LintedFile) :
    write .text (files.map LintedFile.report) =
      ⟨ended (textLines files (shownCount (foundIn files))), none⟩ := by
  have each : LintedFile.lines = fun file => reportLines file.report :=
    funext LintedFile.lines_eq_reportLines
  rw [write, text_eq_ended, textLines, foundIn, each, List.flatMap_map, List.flatMap_map,
    List.countP_map, List.length_map]
  rfl

theorem isOneLine_of_mem_textLines (files : List LintedFile) (total : Int)
    (paths : ∀ file ∈ files, 0x0a ∉ file.path.bytes) (line : String)
    (member : line ∈ textLines files total) : IsOneLine line := by
  rcases List.mem_append.mp member with entry | last
  · rcases List.mem_flatMap.mp entry with ⟨file, present, written⟩
    exact file.isOneLine_of_mem_lines (paths file present) line written
  · rw [List.mem_singleton.mp last]
    exact isOneLine_summaryLine _ _ _

theorem length_textLines (files : List LintedFile) (total : Int) :
    (textLines files total).length = 2 * foundIn files + 1 := by
  have each : LintedFile.lines = fun file => reportLines file.report :=
    funext LintedFile.lines_eq_reportLines
  have pairs := length_reportLines (files.map LintedFile.report)
  rw [List.flatMap_map, List.flatMap_map] at pairs
  rw [textLines, List.length_append, each, pairs]
  rfl

/-- The text written on linted files is two lines for each finding, the second of them the line of
the file that the first one names, and a last line with the counts. When the paths are on one line,
its newlines cut it into no others. The first count is the number of findings as long as that fits
into a signed machine word of 32 bits. -/
theorem text_reads_line_by_line (files : List LintedFile)
    (paths : ∀ file ∈ files, 0x0a ∉ file.path.bytes) :
    ∃ lines, write .text (files.map LintedFile.report) = ⟨ended lines, none⟩ ∧
      physicalLines (ended lines) = (lines ++ [""]).map String.toList ∧
      lines.length = 2 * foundIn files + 1 ∧
      lines = textLines files (shownCount (foundIn files)) ∧
      (foundIn files < 0x80000000 → lines = textLines files (foundIn files)) ∧
      ∀ file ∈ files, ∀ diagnostic ∈ file.diagnostics,
        1 ≤ diagnostic.line ∧ diagnostic.line ≤ (physicalLines file.content).length := by
  refine ⟨_, write_text files, ?_, length_textLines files _, rfl, ?_, ?_⟩
  · exact physicalLines_ended _ (isOneLine_of_mem_textLines files _ paths)
  · intro few
    rw [shownCount_of_lt few]
  · intro file _ diagnostic member
    have named := file.row_of_mem_diagnostics diagnostic member
    exact ⟨named.1, named.2.1⟩

theorem text_reads_line_by_line_on_two_files :
    let broken : LintedFile :=
      ⟨.ofText "a b: \x7b.yaml", .empty, "# c\n\t\x7b\x7b \"d \x7d\x7d\r\n"⟩
    let quiet : LintedFile := ⟨.ofText "e", ⟨["GTUL006"], .empty⟩, "\x7b\x7b \"f \x7d\x7d"⟩
    foundIn [broken, quiet] < 0x80000000 ∧
      write .text ([broken, quiet].map LintedFile.report) =
        ⟨ended ["a b: \x7b.yaml:2: warning [GTUL006] Unmatched or invalid quote detected.",
          "    \x7b\x7b \"d \x7d\x7d", "1 problem(s) in 1 of 2 file(s)"], none⟩ := by
  intro broken quiet
  have paths : ∀ file ∈ [broken, quiet], 0x0a ∉ file.path.bytes := by decide +kernel
  have few : foundIn [broken, quiet] < 0x80000000 := by decide +kernel
  rcases text_reads_line_by_line [broken, quiet] paths with ⟨lines, written, -, -, -, fits, -⟩
  refine ⟨few, ?_⟩
  rw [written, fits few]
  have all : textLines [broken, quiet] (foundIn [broken, quiet]) =
      ["a b: \x7b.yaml:2: warning [GTUL006] Unmatched or invalid quote detected.",
        "    \x7b\x7b \"d \x7d\x7d", "1 problem(s) in 1 of 2 file(s)"] := by
    decide +kernel
  rw [all]

theorem foundIn_replicate (file : LintedFile) (times : Nat) :
    foundIn (List.replicate times file) = times * file.diagnostics.length := by
  rw [foundIn, List.flatMap_replicate]
  simp

theorem ended_textLines_inj (files : List LintedFile) {first second : Int}
    (same : ended (textLines files first) = ended (textLines files second)) :
    toString first = toString second := by
  rw [textLines, textLines, ended_append, ended_append, String.append_right_inj] at same
  simpa only [ended, summaryLine, List.map_cons, List.map_nil, String.join_cons, String.join_nil,
    String.append_assoc, String.append_left_inj] using same

/-- One file with one finding, given so often that the count leaves the machine word: the total is
negative. -/
theorem total_of_many_findings_negative :
    let broken : LintedFile := ⟨.ofText "a", .empty, "\x7b\x7b \" \x7d\x7d"⟩
    let files := List.replicate 0x80000000 broken
    (∀ file ∈ files, 0x0a ∉ file.path.bytes) ∧ foundIn files = 0x80000000 ∧
      write .text (files.map LintedFile.report) = ⟨ended (textLines files (-0x80000000)), none⟩ ∧
      write .text (files.map LintedFile.report) ≠
        ⟨ended (textLines files (foundIn files)), none⟩ := by
  intro broken files
  have one : broken.diagnostics.length = 1 := by decide +kernel
  have count : foundIn files = 0x80000000 := by
    rw [foundIn_replicate, one]
  have shown : shownCount 0x80000000 = -0x80000000 := by decide
  have written := write_text files
  rw [count, shown] at written
  refine ⟨?_, count, written, ?_⟩
  · intro file member
    rw [List.eq_of_mem_replicate member]
    decide +kernel
  · rw [written, count]
    intro same
    have digits := ended_textLines_inj files (Written.mk.inj same).1
    revert digits
    decide

end Report

end QuoteLint
