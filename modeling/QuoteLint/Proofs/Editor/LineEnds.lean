import QuoteLint.Proofs.Editor.Hovers
import Mathlib.Data.List.DropRight

/-! Line ends. A document is read through its bare lines, which have no carriage returns at their
ends: the linter trims them away, a mark stops before them, and a hover never reaches them. Writing
carriage returns before the newlines leaves the bare lines as they are. -/

namespace QuoteLint

namespace Text

theorem dropEndWhile_append_of_all (p : Char → Bool) (cs tail : List Char)
    (all : ∀ c ∈ tail, p c = true) : dropEndWhile p (cs ++ tail) = dropEndWhile p cs := by
  have reversed : ∀ c ∈ tail.reverse, p c = true := by
    intro c member
    exact all c (List.mem_reverse.mp member)
  rw [dropEndWhile, List.reverse_append, List.dropWhile_append_of_pos reversed]
  rfl

theorem trim_append_blank (cs tail : List Char) (blank : ∀ c ∈ tail, isBlank c = true) :
    trim (cs ++ tail) = trim cs := by
  have gone : tail.dropWhile isBlank = [] := List.dropWhile_eq_nil_iff.mpr blank
  rw [trim, trimStart, List.dropWhile_append, gone]
  split
  · next empty => rw [trim, trimStart, List.isEmpty_iff.mp empty]
  · exact dropEndWhile_append_of_all isBlank _ tail blank

theorem exists_of_trim_ne_nil (cs : List Char) (kept : trim cs ≠ []) :
    ∃ c ∈ cs, isBlank c = false := by
  have visible : ¬ ∀ c ∈ cs, isBlank c = true := by
    intro blank
    apply kept
    rw [trim, trimStart, List.dropWhile_eq_nil_iff.mpr blank]
    rfl
  simpa using visible

theorem takeWhile_append_of_exists (cs tail : List Char) (visible : ∃ c ∈ cs, isBlank c = false) :
    (cs ++ tail).takeWhile isBlank = cs.takeWhile isBlank := by
  obtain ⟨c, member, other⟩ := visible
  rw [List.takeWhile_append, if_neg]
  intro whole
  have all : cs.takeWhile isBlank = cs := (List.takeWhile_prefix isBlank).eq_of_length whole
  have blank := List.takeWhile_eq_self_iff.mp all c member
  simp [other] at blank

end Text

def bare (raw : List Char) : List Char := Text.dropEndWhile (· == '\r') raw

theorem exists_eq_bare_append (raw : List Char) :
    ∃ ends, raw = bare raw ++ ends ∧ ∀ c ∈ ends, Text.isBlank c = true := by
  refine ⟨raw.rtakeWhile (· == '\r'), List.rdropWhile_append_rtakeWhile.symm, ?_⟩
  intro c member
  have dropped : c = '\r' := by simpa using List.mem_rtakeWhile_imp member
  rw [dropped]
  decide

theorem bare_cons_congr (c : Char) (first second : List Char) (same : bare first = bare second) :
    bare (c :: first) = bare (c :: second) := by
  have ends : first.reverse.dropWhile (· == '\r') = second.reverse.dropWhile (· == '\r') :=
    List.reverse_injective same
  simp only [bare, Text.dropEndWhile, List.reverse_cons, List.dropWhile_append, ends]

theorem bare_modifyHead_congr (c : Char) (first second : List (List Char))
    (same : first.map bare = second.map bare) :
    (first.modifyHead (List.cons c)).map bare = (second.modifyHead (List.cons c)).map bare := by
  cases first with
  | nil =>
      cases second with
      | nil => rfl
      | cons row rest => simp at same
  | cons raw others =>
      cases second with
      | nil => simp at same
      | cons row rest =>
          obtain ⟨head, tail⟩ := List.cons.inj same
          simp only [List.modifyHead_cons, List.map_cons, bare_cons_congr c raw row head, tail]

theorem trim_bare (raw : List Char) : Text.trim (bare raw) = Text.trim raw := by
  obtain ⟨ends, cut, blank⟩ := exists_eq_bare_append raw
  conv_rhs => rw [cut]
  exact (Text.trim_append_blank (bare raw) ends blank).symm

theorem ofRaw_bare (number : Nat) (raw : List Char) :
    Line.ofRaw number (bare raw) = Line.ofRaw number raw := by
  rw [Line.ofRaw, trim_bare]
  rfl

theorem trim_ne_nil_of_scanned (number : Nat) (raw : List Char)
    (scanned : (Line.ofRaw number raw).isSkipped = false) : Text.trim raw ≠ [] := by
  intro empty
  simp [Line.isSkipped, Line.kind, Line.ofRaw, empty] at scanned

/-- On a blank line the indent would take in the carriage returns, on any other line it does not
reach them. -/
theorem takeWhile_bare (raw : List Char) (kept : Text.trim raw ≠ []) :
    (bare raw).takeWhile Text.isBlank = raw.takeWhile Text.isBlank := by
  obtain ⟨ends, cut, -⟩ := exists_eq_bare_append raw
  have visible : ∃ c ∈ bare raw, Text.isBlank c = false := by
    apply Text.exists_of_trim_ne_nil
    rw [trim_bare]
    exact kept
  conv_rhs => rw [cut]
  exact (Text.takeWhile_append_of_exists (bare raw) ends visible).symm

def bareLines (content : String) : List (List Char) := (physicalLines content).map bare

theorem numberFrom_bare (number : Nat) (rows : List (List Char)) :
    numberFrom number (rows.map bare) = numberFrom number rows := by
  induction rows generalizing number with
  | nil => rfl
  | cons raw rest ih => rw [List.map_cons, numberFrom, ofRaw_bare, ih, numberFrom]

theorem lines_eq_bareLines (content : String) : lines content = numberFrom 1 (bareLines content) :=
  (numberFrom_bare 1 (physicalLines content)).symm

theorem find_eq_of_bareLines (first second : String) (same : bareLines first = bareLines second) :
    MismatchedQuotes.find first = MismatchedQuotes.find second := by
  rw [MismatchedQuotes.find, MismatchedQuotes.find, scannableLines, scannableLines,
    lines_eq_bareLines, lines_eq_bareLines, same]

theorem lint_eq_of_bareLines (settings : RuleSettings) (first second : String)
    (same : bareLines first = bareLines second) :
    lint settings.buildRegistry.1 settings first =
      lint settings.buildRegistry.1 settings second := by
  have found : diagnosticsOf settings first MismatchedQuotes.rule =
      diagnosticsOf settings second MismatchedQuotes.rule :=
    congrArg (List.map _) (find_eq_of_bareLines first second same)
  have diagnostics : (lint settings.buildRegistry.1 settings first).diagnostics =
      (lint settings.buildRegistry.1 settings second).diagnostics := by
    rw [lint_buildRegistry, lint_buildRegistry, found]
  exact congrArg LintResult.mk diagnostics

namespace Editor

theorem lineLength_eq_bareLines (content : String) (index : Nat) :
    lineLength content index = ((bareLines content)[index]?.map Text.units).getD 0 := by
  rw [lineLength, bareLines, List.getElem?_map]
  cases (physicalLines content)[index]? with
  | none => rfl
  | some raw => rfl

theorem hoverOver_bare (result : LintResult) (registry : Registry) (index : Nat) (raw : List Char) :
    hoverOver result registry index (bare raw) = hoverOver result registry index raw := by
  simp only [hoverOver, ofRaw_bare]
  cases skipped : (Line.ofRaw (index + 1) raw).isSkipped with
  | true => rfl
  | false => rw [takeWhile_bare raw (trim_ne_nil_of_scanned (index + 1) raw skipped)]

theorem hover?_eq_bareLines (document : Document) (registry : Registry) (index : Nat) :
    document.hover? registry index =
      (bareLines document.content)[index]?.bind (hoverOver document.result registry index) := by
  rw [document.hover?_eq, bareLines, List.getElem?_map]
  cases (physicalLines document.content)[index]? with
  | none => rfl
  | some raw => rw [Option.map_some, Option.bind_some, Option.bind_some, hoverOver_bare]

end Editor

def endWithReturn (c : Char) : List Char := if c = '\n' then ['\r', '\n'] else [c]

def withReturns (content : String) : String := String.ofList (content.toList.flatMap endWithReturn)

theorem splitOn_withReturns (cs : List Char) :
    ((cs.flatMap endWithReturn).splitOn '\n').map bare = (cs.splitOn '\n').map bare := by
  induction cs with
  | nil => rfl
  | cons c rest ih =>
      rw [List.flatMap_cons]
      by_cases newline : c = '\n'
      · have ending : endWithReturn c ++ rest.flatMap endWithReturn =
            ['\r'] ++ '\n' :: rest.flatMap endWithReturn := by
          rw [newline]
          rfl
        rw [ending, List.splitOn_append_cons_self, List.map_append, ih,
          List.splitOn_cons_eq_if_modifyHead c rest, if_pos (by simpa using newline)]
        rfl
      · have kept : endWithReturn c = [c] := if_neg newline
        rw [kept, List.singleton_append, List.splitOn_cons_eq_if_modifyHead,
          if_neg (by simpa using newline),
          List.splitOn_cons_eq_if_modifyHead c rest, if_neg (by simpa using newline)]
        exact bare_modifyHead_congr c _ _ ih

theorem bareLines_withReturns (content : String) :
    bareLines (withReturns content) = bareLines content := by
  rw [bareLines, physicalLines, withReturns, String.toList_ofList]
  exact splitOn_withReturns content.toList

namespace Editor

theorem markOf_eq_of_bareLines (first second : String) (same : bareLines first = bareLines second)
    (diagnostic : Diagnostic) : markOf first diagnostic = markOf second diagnostic := by
  simp only [markOf, lineLength_eq_bareLines, same]

theorem hover?_eq_of_bareLines (settings : RuleSettings) (first second : String)
    (same : bareLines first = bareLines second) (index : Nat) :
    (Document.ofText settings.buildRegistry.1 settings first).hover? settings.buildRegistry.1
      index =
      (Document.ofText settings.buildRegistry.1 settings second).hover? settings.buildRegistry.1
        index := by
  rw [hover?_eq_bareLines, hover?_eq_bareLines]
  simp only [Document.ofText, same, lint_eq_of_bareLines settings first second same]

/-- With a carriage return written before each newline, also where some stand already, a document
has the same findings, every finding is marked over the same range, and every line has the same
hover. -/
theorem line_ends_do_not_matter (settings : RuleSettings) (content : String) :
    let registry := settings.buildRegistry.1
    lint registry settings (withReturns content) = lint registry settings content ∧
    (∀ diagnostic, markOf (withReturns content) diagnostic = markOf content diagnostic) ∧
    ∀ index, (Document.ofText registry settings (withReturns content)).hover? registry index =
      (Document.ofText registry settings content).hover? registry index := by
  intro registry
  have same := bareLines_withReturns content
  exact ⟨lint_eq_of_bareLines settings _ _ same, markOf_eq_of_bareLines _ _ same,
    hover?_eq_of_bareLines settings _ _ same⟩

example : withReturns "a\r\nb\n" = "a\r\r\nb\r\n" := by decide

end Editor

end QuoteLint
