import QuoteLint.Proofs.Document.Numbering
import QuoteLint.Rule.MismatchedQuotes

/-! The tracker over many lines, and the findings of the rule as a function of its verdicts. -/

namespace QuoteLint

namespace Tracker

variable {κ : Type}

def enter (t : Tracker κ) : Tracker κ := { t with inside := true }

def leave (t : Tracker κ) : Tracker κ := { t with inside := false }

@[simp] theorem enter_inside (t : Tracker κ) : t.enter.inside = true := rfl

@[simp] theorem leave_inside (t : Tracker κ) : t.leave.inside = false := rfl

@[simp] theorem leave_singles (t : Tracker κ) : t.leave.singles = t.singles := rfl

@[simp] theorem leave_doubles (t : Tracker κ) : t.leave.doubles = t.doubles := rfl

theorem enter_of_inside (t : Tracker κ) (inside : t.inside = true) : t.enter = t := by
  cases t
  simp_all [enter]

variable [Tally κ]

theorem count_of_ne (t : Tracker κ) (quoted : Bool) (c : Char) (double : c ≠ '"')
    (single : c ≠ '\'') : count t quoted c = (t, quoted) := by
  simp [count, double, single]

theorem count_inside (t : Tracker κ) (quoted : Bool) (c : Char) :
    (count t quoted c).1.inside = t.inside := by
  unfold count
  split
  · rfl
  · split <;> rfl

/-! One step of the reader, by what stands at the head of the line. -/

theorem scanFrom_closing (start t : Tracker κ) (quoted : Bool) (c : Char) (rest : List Char)
    (closing : c = '}' ∧ rest.head? = some '}') :
    scanFrom start t quoted (c :: rest) =
      if turnedOdd start t.leave then (true, t.leave) else scanFrom start t.leave quoted rest := by
  rw [scanFrom, if_pos closing]
  rfl

theorem scanFrom_opening (start t : Tracker κ) (quoted : Bool) (c : Char) (rest : List Char)
    (opening : c = '{' ∧ rest.head? = some '{') :
    scanFrom start t quoted (c :: rest) = scanFrom start t.enter quoted rest := by
  have entered : (if c = '{' ∧ rest.head? = some '{' then { t with inside := true } else t) =
      t.enter :=
    if_pos opening
  have counted : count t.enter quoted c = (t.enter, quoted) :=
    count_of_ne _ _ _ (by simp [opening.1]) (by simp [opening.1])
  rw [scanFrom, if_neg (by simp [opening.1])]
  simp only [entered, counted, enter_inside, ↓reduceIte]

theorem scanFrom_inside (start t : Tracker κ) (quoted : Bool) (c : Char) (rest : List Char)
    (inside : t.inside = true) (closing : ¬ (c = '}' ∧ rest.head? = some '}')) :
    scanFrom start t quoted (c :: rest) =
      scanFrom start (count t quoted c).1 (count t quoted c).2 rest := by
  have kept : (if c = '{' ∧ rest.head? = some '{' then { t with inside := true } else t) = t := by
    split
    · exact enter_of_inside t inside
    · rfl
  rw [scanFrom, if_neg closing]
  simp only [kept, inside, ↓reduceIte]

theorem scanFrom_outside (start t : Tracker κ) (quoted : Bool) (c : Char) (rest : List Char)
    (outside : t.inside = false) (closing : ¬ (c = '}' ∧ rest.head? = some '}'))
    (opening : ¬ (c = '{' ∧ rest.head? = some '{')) :
    scanFrom start t quoted (c :: rest) = scanFrom start t quoted rest := by
  rw [scanFrom, if_neg closing]
  simp only [opening, outside, ↓reduceIte, Bool.false_eq_true]

/-- The ways to read a line to its end or to where the reader stops. -/
inductive Reading (start : Tracker κ) : Tracker κ → Bool → List Char → Bool × Tracker κ → Prop
  | done (t : Tracker κ) (quoted : Bool) : Reading start t quoted [] (false, t)
  | stop (t : Tracker κ) (quoted : Bool) (c : Char) (rest : List Char)
      (closing : c = '}' ∧ rest.head? = some '}') (turned : turnedOdd start t.leave = true) :
      Reading start t quoted (c :: rest) (true, t.leave)
  | leave (t : Tracker κ) (quoted : Bool) (c : Char) (rest : List Char) (result : Bool × Tracker κ)
      (closing : c = '}' ∧ rest.head? = some '}') (even : turnedOdd start t.leave = false)
      (later : Reading start t.leave quoted rest result) : Reading start t quoted (c :: rest) result
  | enter (t : Tracker κ) (quoted : Bool) (c : Char) (rest : List Char) (result : Bool × Tracker κ)
      (opening : c = '{' ∧ rest.head? = some '{')
      (later : Reading start t.enter quoted rest result) : Reading start t quoted (c :: rest) result
  | count (t : Tracker κ) (quoted : Bool) (c : Char) (rest : List Char) (result : Bool × Tracker κ)
      (inside : t.inside = true) (closing : ¬ (c = '}' ∧ rest.head? = some '}'))
      (later : Reading start (t.count quoted c).1 (t.count quoted c).2 rest result) :
      Reading start t quoted (c :: rest) result
  | skip (t : Tracker κ) (quoted : Bool) (c : Char) (rest : List Char) (result : Bool × Tracker κ)
      (outside : t.inside = false) (closing : ¬ (c = '}' ∧ rest.head? = some '}'))
      (opening : ¬ (c = '{' ∧ rest.head? = some '{'))
      (later : Reading start t quoted rest result) : Reading start t quoted (c :: rest) result

theorem reading_scanFrom (start t : Tracker κ) (quoted : Bool) (text : List Char) :
    Reading start t quoted text (scanFrom start t quoted text) := by
  induction text generalizing t quoted with
  | nil => exact .done t quoted
  | cons c rest ih =>
      by_cases closing : c = '}' ∧ rest.head? = some '}'
      · rw [scanFrom_closing _ _ _ _ _ closing]
        split
        · next turned => exact .stop t quoted c rest closing turned
        · next even => exact .leave t quoted c rest _ closing (by simpa using even) (ih _ _)
      · by_cases opening : c = '{' ∧ rest.head? = some '{'
        · rw [scanFrom_opening _ _ _ _ _ opening]
          exact .enter t quoted c rest _ opening (ih _ _)
        · cases side : t.inside with
          | true =>
              rw [scanFrom_inside _ _ _ _ _ side closing]
              exact .count t quoted c rest _ side closing (ih _ _)
          | false =>
              rw [scanFrom_outside _ _ _ _ _ side closing opening]
              exact .skip t quoted c rest _ side closing opening (ih _ _)

theorem head?_append_of_ne (c : Char) (text tail : List Char) (other : tail.head? ≠ some c) :
    (text ++ tail).head? = some c ↔ text.head? = some c := by
  cases text with
  | nil => simpa using other
  | cons first rest => simp

def run (t : Tracker κ) : List (List Char) → List (Bool × Tracker κ)
  | [] => []
  | text :: rest => t.scan text :: run (t.scan text).2 rest

def verdicts (t : Tracker κ) (texts : List (List Char)) : List Bool := (t.run texts).map (·.1)

def after (t : Tracker κ) (texts : List (List Char)) : Tracker κ :=
  texts.foldl (fun state text => (state.scan text).2) t

end Tracker

namespace MismatchedQuotes

variable {κ : Type} [Tally κ]

def textsOf (lines : List Line) : List (List Char) := lines.map (·.text.toList)

def reported (lines : List Line) (verdicts : List Bool) : List Violation :=
  ((lines.zip verdicts).filter fun judged => judged.2 || isBadScalar judged.1.text.toList).map
    fun judged => violation judged.1

theorem findFrom_eq_reported (t : Tracker κ) (lines : List Line) :
    findFrom t lines = reported lines (t.verdicts (textsOf lines)) := by
  induction lines generalizing t with
  | nil => rfl
  | cons line rest ih =>
      have tail := ih (t.scan line.text.toList).2
      simp only [findFrom, tail]
      by_cases flagged : ((t.scan line.text.toList).1 || isBadScalar line.text.toList) = true
      · simp [reported, textsOf, Tracker.verdicts, Tracker.run, flagged]
      · simp [reported, textsOf, Tracker.verdicts, Tracker.run, flagged]

theorem findFrom_append (t : Tracker κ) (front back : List Line) :
    findFrom t (front ++ back) = findFrom t front ++ findFrom (t.after (textsOf front)) back := by
  induction front generalizing t with
  | nil => rfl
  | cons line rest ih =>
      have tail := ih (t.scan line.text.toList).2
      simp only [List.cons_append, findFrom, tail]
      split <;> rfl

theorem line_of_mem_findFrom (t : Tracker κ) (lines : List Line) (found : Violation)
    (member : found ∈ findFrom t lines) : ∃ line ∈ lines, found = violation line := by
  rw [findFrom_eq_reported] at member
  obtain ⟨judged, kept, rfl⟩ := List.mem_map.mp member
  have paired := (List.mem_filter.mp kept).1
  exact ⟨judged.1, (List.of_mem_zip paired).1, rfl⟩

theorem line_bounds_of_mem_findFrom (t : Tracker κ) (content : String) (found : Violation)
    (member : found ∈ findFrom t (scannableLines content)) :
    1 ≤ found.line ∧ found.line ≤ (physicalLines content).length := by
  obtain ⟨line, present, rfl⟩ := line_of_mem_findFrom t _ found member
  exact number_bounds_of_mem_scannableLines content line present

theorem findFrom_increasing (t : Tracker κ) (lines : List Line)
    (increasing : lines.Pairwise fun earlier later => earlier.number < later.number) :
    (findFrom t lines).Pairwise fun earlier later => earlier.line < later.line := by
  induction lines generalizing t with
  | nil => exact .nil
  | cons line rest ih =>
      obtain ⟨later, ordered⟩ := List.pairwise_cons.mp increasing
      rw [findFrom]
      split
      · refine .cons ?_ (ih _ ordered)
        intro found member
        obtain ⟨other, present, rfl⟩ := line_of_mem_findFrom _ _ found member
        exact later other present
      · exact ih _ ordered

theorem find_increasing (content : String) :
    (find content).Pairwise fun earlier later => earlier.line < later.line :=
  findFrom_increasing _ _ (scannableLines_increasing content)

/-- The state in which a document's line after `front` is met. -/
def carried (front : List Line) : Tracker UInt64 := Tracker.fresh.after (textsOf front)

/-- A scanned line is reported exactly when the tracker or the scalar check is against it: no other
line has its number. -/
theorem reported_iff (content : String) (front back : List Line) (line : Line)
    (lines : scannableLines content = front ++ line :: back) :
    (∃ found ∈ find content, found.line = line.number) ↔
      ((carried front).scan line.text.toList).1 = true ∨ isBadScalar line.text.toList = true := by
  have increasing := scannableLines_increasing content
  rw [lines, List.pairwise_append, List.pairwise_cons] at increasing
  obtain ⟨-, ⟨later, -⟩, earlier⟩ := increasing
  have split : find content =
      findFrom (Tracker.fresh : Tracker UInt64) front ++
        findFrom (carried front) (line :: back) := by
    rw [find, lines, findFrom_append]
    rfl
  rw [split, ← Bool.or_eq_true]
  constructor
  · rintro ⟨found, member, number⟩
    rcases List.mem_append.mp member with before | since
    · obtain ⟨other, present, rfl⟩ := line_of_mem_findFrom _ _ _ before
      have lower : other.number < line.number := earlier other present line (by simp)
      have equal : other.number = line.number := number
      omega
    · rw [findFrom] at since
      by_cases flagged :
        (((carried front).scan line.text.toList).1 || isBadScalar line.text.toList) = true
      · exact flagged
      · rw [if_neg flagged] at since
        obtain ⟨other, present, rfl⟩ := line_of_mem_findFrom _ _ _ since
        have higher : line.number < other.number := later other present
        have equal : other.number = line.number := number
        omega
  · intro flagged
    refine ⟨violation line, List.mem_append_right _ ?_, rfl⟩
    rw [findFrom, if_pos flagged]
    exact List.mem_cons_self

end MismatchedQuotes

end QuoteLint
