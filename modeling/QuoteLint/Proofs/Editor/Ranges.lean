import QuoteLint.Proofs.Editor.LineEnds

/-! The text under a range. Marks and hovers count in 16-bit units, while the indent of a line is
found by the bytes that trimming takes away. Both come out at the same place, whatever blanks stand
before the text and whatever characters are in it: a hover covers the text that was reported, and
lies within the mark. -/

namespace QuoteLint

namespace Text

/-- The units of a character in UTF-16. Beyond the first plane they are a pair of surrogates. -/
def utf16Of (c : Char) : List UInt16 :=
  if c.toNat < 0x10000 then [c.toNat.toUInt16]
  else [(0xD800 + (c.toNat - 0x10000) / 0x400).toUInt16,
    (0xDC00 + (c.toNat - 0x10000) % 0x400).toUInt16]

def utf16 (cs : List Char) : List UInt16 := cs.flatMap utf16Of

example : utf16 ['é', '😀'] = [0xE9, 0xD83D, 0xDE00] := by decide

theorem length_utf16Of (c : Char) : (utf16Of c).length = unitsOf c := by
  unfold utf16Of unitsOf
  split <;> rfl

theorem length_utf16 (cs : List Char) : (utf16 cs).length = units cs := by
  induction cs with
  | nil => rfl
  | cons c rest ih => rw [utf16, List.flatMap_cons, List.length_append, length_utf16Of, units, ← ih,
      utf16]

theorem utf16_append (front back : List Char) : utf16 (front ++ back) = utf16 front ++ utf16 back :=
  List.flatMap_append

theorem units_append (front back : List Char) :
    units (front ++ back) = units front + units back := by
  rw [← length_utf16, utf16_append, List.length_append, length_utf16, length_utf16]

theorem units_pos {cs : List Char} (nonempty : cs ≠ []) : 0 < units cs := by
  rcases List.exists_cons_of_ne_nil nonempty with ⟨c, rest, rfl⟩
  have first : 0 < unitsOf c := by
    unfold unitsOf
    split <;> decide
  rw [units]
  omega

theorem exists_eq_indent_append (raw : List Char) :
    ∃ ends, raw = raw.takeWhile isBlank ++ trim raw ++ ends := by
  have back : trim raw ++ (trimStart raw).rtakeWhile isBlank = raw.dropWhile isBlank :=
    List.rdropWhile_append_rtakeWhile
  refine ⟨(trimStart raw).rtakeWhile isBlank, ?_⟩
  rw [List.append_assoc, back, List.takeWhile_append_dropWhile]

end Text

/-- What lies on a line between two columns, counted in 16-bit units. -/
def unitsBetween (raw : List Char) (first last : Nat) : List UInt16 :=
  ((Text.utf16 raw).take last).drop first

theorem unitsBetween_trimmed (raw : List Char) :
    unitsBetween raw (Text.units (raw.takeWhile Text.isBlank))
      (Text.units (raw.takeWhile Text.isBlank) + Text.units (Text.trim raw)) =
        Text.utf16 (Text.trim raw) := by
  rcases Text.exists_eq_indent_append raw with ⟨ends, cut⟩
  have encoded : Text.utf16 raw =
      (Text.utf16 (raw.takeWhile Text.isBlank) ++ Text.utf16 (Text.trim raw)) ++
        Text.utf16 ends := by
    conv_lhs => rw [cut]
    rw [Text.utf16_append, Text.utf16_append]
  rw [unitsBetween, encoded, ← Text.length_utf16, ← Text.length_utf16, ← List.length_append,
    List.take_left, List.drop_left]

theorem trimmed_within_bare (raw : List Char) (kept : Text.trim raw ≠ []) :
    Text.units (raw.takeWhile Text.isBlank) + Text.units (Text.trim raw) ≤
      Text.units (bare raw) := by
  rcases Text.exists_eq_indent_append (bare raw) with ⟨ends, cut⟩
  rw [takeWhile_bare raw kept, trim_bare] at cut
  have sizes := congrArg Text.units cut
  rw [Text.units_append, Text.units_append] at sizes
  omega

theorem bare_within_line (raw : List Char) : Text.units (bare raw) ≤ Text.units raw := by
  rcases exists_eq_bare_append raw with ⟨ends, cut, -⟩
  have sizes := congrArg Text.units cut
  rw [Text.units_append] at sizes
  omega

namespace Editor

/-- The range stays on one line and goes from one column to another. -/
structure Range.Spans (range : Range) (index first last : Nat) : Prop where
  startLine : range.start.line.toNat = index
  stopLine : range.stop.line.toNat = index
  start : range.start.character.toNat = first
  stop : range.stop.character.toNat = last

theorem toNat_toUInt32 {n : Nat} (small : n < UInt32.size) : n.toUInt32.toNat = n :=
  UInt32.toNat_ofNat_of_lt' small

theorem spans_of_small {index first last : Nat} (smallIndex : index < UInt32.size)
    (ordered : first ≤ last) (small : last < UInt32.size) :
    Range.Spans ⟨⟨index.toUInt32, first.toUInt32⟩,
      ⟨index.toUInt32, last.toUInt32⟩⟩ index first last where
  startLine := toNat_toUInt32 smallIndex
  stopLine := toNat_toUInt32 smallIndex
  start := toNat_toUInt32 (Nat.lt_of_le_of_lt ordered small)
  stop := toNat_toUInt32 small

theorem index_small {content : String} {index : Nat} {raw : List Char}
    (row : (physicalLines content)[index]? = some raw)
    (few : (physicalLines content).length < UInt32.size) : index < UInt32.size := by
  have inside := (List.getElem?_eq_some_iff.mp row).1
  omega

section Small

variable {content : String} {index : Nat} {raw : List Char}
  (row : (physicalLines content)[index]? = some raw)
  (few : (physicalLines content).length < UInt32.size) (narrow : Text.units raw < UInt32.size)
include row few narrow

theorem markOf_spans (diagnostic : Diagnostic) (line : diagnostic.line = index + 1) :
    (markOf content diagnostic).range.Spans index 0 (Text.units (bare raw)) := by
  have length : lineLength content index = Text.units (bare raw) := by
    rw [lineLength, row]
    rfl
  have place : diagnostic.line - 1 = index := by omega
  have fits := bare_within_line raw
  have spans :=
    spans_of_small (index_small row few) (Nat.zero_le _) (Nat.lt_of_le_of_lt fits narrow)
  rw [markOf, place, length]
  exact spans

theorem hover_spans (document : Document) (same : document.content = content)
    (registry : Registry) (hover : Hover) (shown : document.hover? registry index = some hover)
    (kept : Text.trim raw ≠ []) :
    hover.range.Spans index (Text.units (raw.takeWhile Text.isBlank))
      (Text.units (raw.takeWhile Text.isBlank) + Text.units (Text.trim raw)) := by
  have within := trimmed_within_bare raw kept
  have fits := bare_within_line raw
  have spans := spans_of_small (index_small row few) (Nat.le_add_right _ _)
    (Nat.lt_of_le_of_lt (Nat.le_trans within fits) narrow)
  rw [← same] at row
  rw [range_of_hover? document registry index hover raw row shown, ← UInt32.ofNat_add]
  exact spans

end Small

def levelsOnly (settings : RuleSettings) : RuleSettings := ⟨[], settings.severity⟩

theorem lint_builtin (settings : RuleSettings) (content : String) :
    lint .builtin settings content =
      lint (levelsOnly settings).buildRegistry.1 (levelsOnly settings) content := rfl

/-- While line numbers and columns fit into a position, each finding has its line: the mark goes
over all of it but the carriage returns at its end, the hover lies within the mark, and what it
covers is the reported text. On any line the indent ends between two characters, and is made of the
blanks before the text. -/
theorem ranges_designate_reported_text (settings : RuleSettings) (content : String) :
    ((physicalLines content).length < UInt32.size →
      (∀ raw ∈ physicalLines content, (Text.utf16 raw).length < UInt32.size) →
      ∀ diagnostic ∈ (lint .builtin settings content).diagnostics, ∃ raw hover first last,
        0 < diagnostic.line ∧ (physicalLines content)[diagnostic.line - 1]? = some raw ∧
        (markOf content diagnostic).range.Spans (diagnostic.line - 1) 0
          (Text.utf16 (bare raw)).length ∧
        (Document.ofText .builtin settings content).hover? .builtin (diagnostic.line - 1) =
          some hover ∧
        hover.range.Spans (diagnostic.line - 1) first last ∧
        first < last ∧ last ≤ (Text.utf16 (bare raw)).length ∧
        unitsBetween raw first last = Text.utf16 diagnostic.sourceLine.toList) ∧
    ∀ (index : Nat) (raw : List Char), (physicalLines content)[index]? = some raw →
      (String.ofList (Text.trimStart raw)).utf8ByteSize ≤ (String.ofList raw).utf8ByteSize ∧
      String.Pos.Raw.IsValid (String.ofList raw) ⟨Text.indentBytes raw⟩ ∧
      (String.ofList raw).toUTF8.extract 0 (Text.indentBytes raw) =
        (String.ofList (raw.takeWhile Text.isBlank)).toUTF8 := by
  constructor
  · intro few narrow diagnostic member
    have reported := member
    rw [lint_builtin] at reported
    rcases scanned_of_mem_lint _ content diagnostic reported with
      ⟨-, index, raw, row, line, scanned, text⟩
    have shown := hover?_of_reported _ content diagnostic reported index line
    rcases Option.isSome_iff_exists.mp shown with ⟨hover, drawn⟩
    have kept := trim_ne_nil_of_scanned (index + 1) raw scanned
    have small : Text.units raw < UInt32.size := by
      rw [← Text.length_utf16]
      exact narrow raw (List.mem_of_getElem? row)
    have place : diagnostic.line - 1 = index := by omega
    have nonempty := Text.units_pos kept
    refine ⟨raw, hover, Text.units (raw.takeWhile Text.isBlank),
      Text.units (raw.takeWhile Text.isBlank) + Text.units (Text.trim raw), ?_⟩
    rw [place, Text.length_utf16, text, String.toList_ofList]
    exact ⟨by omega, row, markOf_spans row few small diagnostic line, drawn,
      hover_spans row few small _ rfl _ hover drawn kept, by omega, trimmed_within_bare raw kept,
      unitsBetween_trimmed raw⟩
  · intro index raw _
    have whole := Text.utf8ByteSize_indent raw
    exact ⟨by omega, Text.indentBytes_isValid raw, Text.extract_indentBytes raw⟩

theorem ranges_designate_text_after_wide_blank :
    let content := "a: b\n\u3000\x7b\x7b \"😀 \x7d\x7d\u2003\r"
    let raw := "\u3000\x7b\x7b \"😀 \x7d\x7d\u2003\r".toList
    (∃ diagnostic ∈ (lint .builtin .empty content).diagnostics, ∃ hover first last,
      (markOf content diagnostic).range.Spans 1 0 11 ∧
      (Document.ofText .builtin .empty content).hover? .builtin 1 = some hover ∧
      hover.range.Spans 1 first last ∧ first < last ∧ last ≤ 11 ∧
      unitsBetween raw first last = Text.utf16 diagnostic.sourceLine.toList) ∧
    (physicalLines content)[1]? = some raw ∧ Text.indentBytes raw = 3 ∧
    String.Pos.Raw.IsValid (String.ofList raw) ⟨3⟩ := by
  intro content raw
  have found : (lint .builtin .empty content).diagnostics =
      diagnosticsOf .empty content MismatchedQuotes.rule :=
    lint_buildRegistry .empty content
  have second : ∃ diagnostic ∈ (lint .builtin .empty content).diagnostics, diagnostic.line = 2 := by
    rw [found]
    decide +kernel
  have row : (physicalLines content)[1]? = some raw := by decide +kernel
  have width : (Text.utf16 (bare raw)).length = 11 := by decide +kernel
  have indent : Text.indentBytes raw = 3 := by decide +kernel
  rcases ranges_designate_reported_text .empty content with ⟨designated, sliced⟩
  rcases second with ⟨diagnostic, member, line⟩
  rcases designated (by decide +kernel) (by decide +kernel) diagnostic member with
    ⟨other, hover, first, last, -, standing, mark, shown, spans, ordered, within, covered⟩
  rw [line] at standing mark shown spans
  rcases Option.some.inj (row.symm.trans standing) with rfl
  rw [width] at mark within
  refine ⟨⟨diagnostic, member, hover, first, last, mark, shown, spans, ordered, within, covered⟩,
    row, indent, ?_⟩
  rw [← indent]
  exact (sliced 1 raw row).2.1

end Editor

end QuoteLint
