import QuoteLint.Proofs.Quote.Run
import Mathlib.Logic.Relation
import Mathlib.Order.Monotone.Basic

/-! Blank lines and comments are counted and not read. Putting one into a document moves the
findings below it down by one line and changes nothing else, also within an expression that goes on
around it. -/

namespace QuoteLint

def Line.renumber (place : Nat → Nat) (line : Line) : Line :=
  { line with number := place line.number }

def Violation.renumber (place : Nat → Nat) (found : Violation) : Violation :=
  { found with line := place found.line }

/-- What the numbers become when a line is put in after the first `count` lines. -/
def shiftPast (count number : Nat) : Nat := if count < number then number + 1 else number

theorem shiftPast_strictMono (count : Nat) : StrictMono (shiftPast count) := by
  intro lower upper less
  unfold shiftPast
  split <;> split <;> omega

def IsPassedOver (row : String) : Prop :=
  Text.trim row.toList = [] ∨ (Text.trim row.toList).head? = some '#'

theorem isSkipped_ofRaw (number : Nat) (row : String) (passed : IsPassedOver row) :
    (Line.ofRaw number row.toList).isSkipped = true := by
  have text : (Line.ofRaw number row.toList).text.toList = Text.trim row.toList :=
    String.toList_ofList
  unfold Line.isSkipped Line.kind
  rw [text]
  rcases passed with blank | comment
  · rw [blank]
    rfl
  · obtain ⟨rest, shape⟩ := List.head?_eq_some_iff.mp comment
    rw [shape]
    rfl

theorem numberFrom_add (number count : Nat) (rows : List (List Char)) :
    numberFrom (number + count) rows =
      (numberFrom number rows).map (Line.renumber (· + count)) := by
  induction rows generalizing number with
  | nil => rfl
  | cons raw rest ih =>
      have next : number + count + 1 = number + 1 + count := by omega
      rw [numberFrom, numberFrom, next, ih (number + 1), List.map_cons]
      rfl

theorem numberFrom_insert (front back : List (List Char)) (raw : List Char) :
    numberFrom 1 (front ++ raw :: back) =
      (numberFrom 1 front).map (Line.renumber (shiftPast front.length)) ++
        Line.ofRaw (1 + front.length) raw ::
          (numberFrom (1 + front.length) back).map (Line.renumber (shiftPast front.length)) := by
  have above : (numberFrom 1 front).map (Line.renumber (shiftPast front.length)) =
      numberFrom 1 front := by
    conv_rhs => rw [← List.map_id (numberFrom 1 front)]
    apply List.map_congr_left
    intro line member
    have bounds := number_bounds 1 front line member
    have kept : shiftPast front.length line.number = line.number := if_neg (by omega)
    simp [Line.renumber, kept]
  have below : (numberFrom (1 + front.length) back).map (Line.renumber (shiftPast front.length)) =
      numberFrom (1 + front.length + 1) back := by
    rw [numberFrom_add (1 + front.length) 1]
    apply List.map_congr_left
    intro line member
    have bounds := number_bounds (1 + front.length) back line member
    have moved : shiftPast front.length line.number = line.number + 1 := if_pos (by omega)
    simp [Line.renumber, moved]
  rw [above, below, numberFrom_append, numberFrom]

theorem filter_insert (front back : List (List Char)) (raw : List Char)
    (skipped : ∀ number, (Line.ofRaw number raw).isSkipped = true) :
    (numberFrom 1 (front ++ raw :: back)).filter (!·.isSkipped) =
      ((numberFrom 1 (front ++ back)).filter (!·.isSkipped)).map
        (Line.renumber (shiftPast front.length)) := by
  have same (rows : List Line) :
      (rows.map (Line.renumber (shiftPast front.length))).filter (!·.isSkipped) =
        (rows.filter (!·.isSkipped)).map (Line.renumber (shiftPast front.length)) := List.filter_map
  rw [numberFrom_insert, numberFrom_append, List.filter_append, List.filter_append, List.map_append,
    List.filter_cons_of_neg (by simp [skipped]), same, same]

theorem lines_intercalate (rows : List String) (present : rows ≠ [])
    (single : ∀ row ∈ rows, '\n' ∉ row.toList) :
    lines ("\n".intercalate rows) = numberFrom 1 (rows.map String.toList) := by
  have whole : physicalLines ("\n".intercalate rows) = rows.map String.toList := by
    rw [physicalLines, String.toList_intercalate]
    apply List.splitOn_intercalate
    · simpa using single
    · simpa using present
  rw [lines, whole]

/-- One blank line or comment is put in somewhere. -/
def Inserts (rows more : List String) : Prop :=
  ∃ front row back, rows = front ++ back ∧ more = front ++ row :: back ∧ '\n' ∉ row.toList ∧
    IsPassedOver row

namespace MismatchedQuotes

theorem findFrom_renumber {κ : Type} [Tally κ] (t : Tracker κ) (place : Nat → Nat)
    (lines : List Line) :
    findFrom t (lines.map (Line.renumber place)) =
      (findFrom t lines).map (Violation.renumber place) := by
  induction lines generalizing t with
  | nil => rfl
  | cons line rest ih =>
      simp only [List.map_cons, findFrom, Line.renumber, ih]
      split <;> rfl

theorem find_intercalate (rows : List String) (single : ∀ row ∈ rows, '\n' ∉ row.toList) :
    find ("\n".intercalate rows) =
      findFrom (Tracker.fresh : Tracker UInt64)
        ((numberFrom 1 (rows.map String.toList)).filter (!·.isSkipped)) := by
  cases rows with
  | nil => decide +kernel
  | cons first rest => rw [find, scannableLines, lines_intercalate _ (by simp) single]

theorem find_insert (front back : List String) (row : String)
    (single : ∀ line ∈ front ++ row :: back, '\n' ∉ line.toList) (passed : IsPassedOver row) :
    find ("\n".intercalate (front ++ row :: back)) =
      (find ("\n".intercalate (front ++ back))).map
        (Violation.renumber (shiftPast front.length)) := by
  have others : ∀ line ∈ front ++ back, '\n' ∉ line.toList := by
    intro line member
    rcases List.mem_append.mp member with above | below
    · exact single line (List.mem_append_left _ above)
    · exact single line (List.mem_append_right _ (List.mem_cons_of_mem _ below))
  have scanned := filter_insert (front.map String.toList) (back.map String.toList) row.toList
    (fun number => isSkipped_ofRaw number row passed)
  rw [← List.map_cons, ← List.map_append, ← List.map_append, List.length_map] at scanned
  rw [find_intercalate _ single, find_intercalate _ others, scanned, findFrom_renumber]

theorem find_insertions (rows more : List String) (single : ∀ row ∈ rows, '\n' ∉ row.toList)
    (inserted : Relation.ReflTransGen Inserts rows more) :
    (∀ row ∈ more, '\n' ∉ row.toList) ∧ ∃ place : Nat → Nat, StrictMono place ∧
      (rows ≠ [] → more ≠ [] ∧
        ∀ line ∈ lines ("\n".intercalate rows),
          line.renumber place ∈ lines ("\n".intercalate more)) ∧
      find ("\n".intercalate more) =
        (find ("\n".intercalate rows)).map (Violation.renumber place) := by
  induction inserted with
  | refl =>
      refine ⟨single, id, strictMono_id, fun present => ⟨present, fun line member => member⟩, ?_⟩
      exact (List.map_id _).symm
  | tail _ step ih =>
      obtain ⟨front, row, back, rfl, rfl, newline, passed⟩ := step
      obtain ⟨others, place, increasing, kept, found⟩ := ih
      have all : ∀ line ∈ front ++ row :: back, '\n' ∉ line.toList := by
        intro line member
        rcases List.mem_append.mp member with above | here
        · exact others line (List.mem_append_left _ above)
        · rcases List.mem_cons.mp here with rfl | below
          · exact newline
          · exact others line (List.mem_append_right _ below)
      refine ⟨all, shiftPast front.length ∘ place, (shiftPast_strictMono _).comp increasing, ?_, ?_⟩
      · intro present
        obtain ⟨nonempty, before⟩ := kept present
        refine ⟨by simp, ?_⟩
        intro line member
        have moved := before line member
        rw [lines_intercalate _ nonempty others, List.map_append, numberFrom_append] at moved
        rw [lines_intercalate _ (by simp) all, List.map_append, List.map_cons, numberFrom_insert,
          List.length_map]
        have again : line.renumber (shiftPast front.length ∘ place) =
            (line.renumber place).renumber (shiftPast front.length) := rfl
        rw [again]
        rcases List.mem_append.mp moved with above | below
        · exact List.mem_append_left _ (List.mem_map_of_mem above)
        · rw [List.length_map] at below
          exact List.mem_append_right _ (List.mem_cons_of_mem _ (List.mem_map_of_mem below))
      · rw [find_insert front back row all passed, found, List.map_map]
        rfl

/-- A blank line or comment put in anywhere, whatever it holds and whatever goes on around it, adds
one to the numbers below it and changes nothing else. So any number of them put in, one after
another, only move the findings down with their lines. -/
theorem passed_over_lines_only_shift :
    (∀ (front back : List String) (row : String),
      (∀ line ∈ front ++ row :: back, '\n' ∉ line.toList) →
      IsPassedOver row →
      find ("\n".intercalate (front ++ row :: back)) =
        (find ("\n".intercalate (front ++ back))).map
          (Violation.renumber (shiftPast front.length))) ∧
    ∀ rows more : List String, rows ≠ [] → (∀ row ∈ rows, '\n' ∉ row.toList) →
      Relation.ReflTransGen Inserts rows more →
      ∃ place : Nat → Nat, StrictMono place ∧
        (∀ line ∈ lines ("\n".intercalate rows),
          line.renumber place ∈ lines ("\n".intercalate more)) ∧
        find ("\n".intercalate more) =
          (find ("\n".intercalate rows)).map (Violation.renumber place) := by
  constructor
  · exact find_insert
  · intro rows more present single inserted
    obtain ⟨-, place, increasing, kept, found⟩ := find_insertions rows more single inserted
    exact ⟨place, increasing, (kept present).2, found⟩

theorem passed_over_comment_within_expression :
    IsPassedOver " # \" \x7d\x7d" ∧
      find ("\n".intercalate ["\x7b\x7b if", " # \" \x7d\x7d", "' \x7d\x7d"]) =
        (find ("\n".intercalate ["\x7b\x7b if", "' \x7d\x7d"])).map
          (Violation.renumber (shiftPast 1)) := by
  have comment : IsPassedOver " # \" \x7d\x7d" := .inr (by decide +kernel)
  exact ⟨comment, passed_over_lines_only_shift.1 ["\x7b\x7b if"] ["' \x7d\x7d"] " # \" \x7d\x7d"
    (by decide +kernel) comment⟩

end MismatchedQuotes

end QuoteLint
