import QuoteLint.Proofs.Quote.Balance
import QuoteLint.Proofs.Quote.BrokenLine

/-! The verdict on a single line, as a function of the expressions that its text is cut into. What
stands outside the expressions, and how many braces a marker is written with, has no part in it. -/

namespace QuoteLint.Expression

/-- A text that leaves no expression open. -/
inductive IsComplete : List Char → Prop
  | nil : IsComplete []
  | skip (c : Char) (rest : List Char) (opening : ¬ (c = '{' ∧ rest.head? = some '{'))
      (later : IsComplete rest) : IsComplete (c :: rest)
  | expression (rest body post : List Char) (cut : close? rest = some (body, post))
      (later : IsComplete post) : IsComplete ('{' :: '{' :: rest)

theorem close?_append (text body post back : List Char) (cut : close? text = some (body, post)) :
    close? (text ++ back) = some (body, post ++ back) := by
  obtain ⟨whole, first⟩ := (close?_eq_some_iff text body post).mp cut
  apply (close?_eq_some_iff _ _ _).mpr
  exact ⟨by simp [whole], first⟩

/-- No marker is made of the last brace of one text and the first of the next. -/
def AreApart (brace : Char) (front back : List Char) : Prop :=
  front.getLast? = some brace → back.head? ≠ some brace

instance (brace : Char) (front back : List Char) : Decidable (AreApart brace front back) :=
  inferInstanceAs (Decidable (_ → _))

theorem AreApart.of_append {brace : Char} (front : List Char) {middle back : List Char}
    (apart : AreApart brace (front ++ middle) back) : AreApart brace middle back := by
  intro last
  apply apart
  rw [List.getLast?_append, last]
  rfl

theorem AreApart.marker_iff {brace c : Char} {rest back : List Char}
    (apart : AreApart brace (c :: rest) back) :
    (c = brace ∧ (rest ++ back).head? = some brace) ↔ (c = brace ∧ rest.head? = some brace) := by
  cases rest with
  | nil =>
      apply and_congr_right
      intro first
      have other : back.head? ≠ some brace := apart (by rw [first]; rfl)
      simpa using other
  | cons next others => rfl

theorem closed_append (front back : List Char) (complete : IsComplete front)
    (apart : AreApart '{' front back) :
    closed (front ++ back) = closed front ++ closed back := by
  induction complete with
  | nil => simp [closed]
  | skip c rest opening later ih =>
      have still : ¬ (c = '{' ∧ (rest ++ back).head? = some '{') := by rwa [apart.marker_iff]
      have tail : AreApart '{' rest back := AreApart.of_append [c] apart
      rw [List.cons_append, closed_outside c _ still, closed_outside c rest opening, ih tail]
  | expression rest body post cut later ih =>
      have tail : AreApart '{' post back := by
        obtain ⟨whole, -⟩ := (close?_eq_some_iff rest body post).mp cut
        have shape : '{' :: '{' :: rest = ('{' :: '{' :: body ++ ['}', '}']) ++ post := by
          simp [whole]
        rw [shape] at apart
        exact AreApart.of_append _ apart
      have longer := close?_append rest body post back cut
      calc
        closed ('{' :: '{' :: rest ++ back) = body :: closed (post ++ back) :=
          closed_open _ _ _ longer
        _ = body :: (closed post ++ closed back) := by rw [ih tail]
        _ = closed ('{' :: '{' :: rest) ++ closed back := by
          rw [closed_open rest body post cut, List.cons_append]

theorem complete_of_no_brace (text : List Char) (free : '{' ∉ text) :
    IsComplete text ∧ closed text = [] := by
  induction text with
  | nil => exact ⟨.nil, by rw [closed]⟩
  | cons c rest ih =>
      have other : ¬ (c = '{' ∧ rest.head? = some '{') := by
        rintro ⟨rfl, -⟩
        exact free List.mem_cons_self
      obtain ⟨complete, empty⟩ := ih fun member => free (List.mem_cons_of_mem c member)
      exact ⟨.skip c rest other complete, by rw [closed_outside c rest other, empty]⟩

theorem closed_insert (front stray back : List Char) (complete : IsComplete front)
    (free : '{' ∉ stray) (apart : AreApart '{' front back) :
    closed (front ++ stray ++ back) = closed (front ++ back) := by
  obtain ⟨whole, empty⟩ := complete_of_no_brace stray free
  have ahead : AreApart '{' front (stray ++ back) := by
    intro last
    cases stray with
    | nil => exact apart last
    | cons first others =>
        intro next
        have brace : first = '{' := Option.some.inj next
        exact free (brace ▸ List.mem_cons_self)
  have behind : AreApart '{' stray back :=
    fun last => absurd (List.mem_of_getLast? last) free
  calc
    closed (front ++ stray ++ back) = closed front ++ closed (stray ++ back) := by
      rw [List.append_assoc, closed_append front _ complete ahead]
    _ = closed front ++ closed back := by
      rw [closed_append stray back whole behind, empty, List.nil_append]
    _ = closed (front ++ back) := (closed_append front back complete apart).symm

theorem not_isBalanced_iff (body : List Char) :
    ¬ IsBalanced body ↔ Odd (body.count '"') ∨ Odd (outerSingles false body) := by
  rw [IsBalanced, not_and_or, Nat.not_even_iff_odd, Nat.not_even_iff_odd]

end QuoteLint.Expression

namespace QuoteLint.Tracker

open Expression

section Reader

variable {κ : Type} [Tally κ]

theorem scanFrom_start (a b t : Tracker κ) (quoted : Bool) (text : List Char)
    (singles : Tally.isOdd a.singles = Tally.isOdd b.singles)
    (doubles : Tally.isOdd a.doubles = Tally.isOdd b.doubles) :
    scanFrom a t quoted text = scanFrom b t quoted text := by
  have turned (now : Tracker κ) : turnedOdd a now = turnedOdd b now := by
    rw [turnedOdd, turnedOdd, singles, doubles]
  induction text generalizing t quoted with
  | nil => rfl
  | cons c rest ih => simp only [scanFrom, turned, ih]

theorem scanFrom_append_congr (start : Tracker κ) (one other : List Char)
    (head : one.head? = other.head?)
    (alike : ∀ t quoted, scanFrom start t quoted one = scanFrom start t quoted other)
    (front : List Char) (t : Tracker κ) (quoted : Bool) :
    scanFrom start t quoted (front ++ one) = scanFrom start t quoted (front ++ other) := by
  induction front generalizing t quoted with
  | nil => exact alike t quoted
  | cons c rest ih =>
      have next : (rest ++ one).head? = (rest ++ other).head? := by
        rw [List.head?_append, List.head?_append, head]
      simp only [List.cons_append, scanFrom, next, ih]

theorem scanFrom_three (start t : Tracker κ) (quoted : Bool) (brace : Char) (rest : List Char)
    (kind : brace = '{' ∨ brace = '}') :
    scanFrom start t quoted (brace :: brace :: brace :: rest) =
      scanFrom start t quoted (brace :: brace :: rest) := by
  rcases kind with rfl | rfl
  · rw [scanFrom_marker, scanFrom_marker, scanFrom_brace _ _ _ _ t.enter_inside]
  · have close (state : Tracker κ) (tail : List Char) :=
      scanFrom_closing start state quoted '}' ('}' :: tail) ⟨rfl, rfl⟩
    have twice : t.leave.leave = t.leave := rfl
    rw [close t ('}' :: rest), close t rest]
    split
    · rfl
    · next even => rw [close t.leave rest, twice, if_neg even]

theorem scanFrom_run (start : Tracker κ) (brace : Char) (kind : brace = '{' ∨ brace = '}')
    (more : Nat) (back : List Char) (t : Tracker κ) (quoted : Bool) :
    scanFrom start t quoted (List.replicate (more + 2) brace ++ back) =
      scanFrom start t quoted (brace :: brace :: back) := by
  induction more generalizing t quoted with
  | zero => rfl
  | succ more ih =>
      calc
        _ = scanFrom start t quoted ([brace] ++ (List.replicate (more + 2) brace ++ back)) := rfl
        _ = scanFrom start t quoted ([brace] ++ (brace :: brace :: back)) :=
          scanFrom_append_congr start _ _ (by rfl) ih [brace] t quoted
        _ = scanFrom start t quoted (brace :: brace :: back) :=
          scanFrom_three start t quoted brace back kind

end Reader

theorem scan_outside_iff (t : Tracker UInt64) (text : List Char) (outside : t.inside = false) :
    (t.scan text).1 = true ↔ ∃ body ∈ closed text, ¬ IsBalanced body := by
  have judged := balancedFrom_scan t.parity text [] (.inl outside) (by simp)
  rw [List.append_nil, balancedFrom_outside _ _ outside, and_iff_left (balancedFrom_nil _),
    scan_parity]
    at judged
  rw [← Bool.not_eq_false, ← judged]
  push Not
  rfl

theorem scan_inside_eq (t : Tracker UInt64) (text : List Char) (inside : t.inside = true)
    (singles : Tally.isOdd t.singles = false) (doubles : Tally.isOdd t.doubles = false) :
    (t.scan text).1 = ((fresh : Tracker UInt64).scan ('{' :: '{' :: text)).1 := by
  have bits : t.parity = (fresh : Tracker Bool).enter := by
    rw [parity, inside, singles, doubles]
    rfl
  have here : (t.scan text).1 =
      (scanFrom fresh.enter (fresh : Tracker Bool).enter false text).1 := by
    have line : (t.parity.scan text).1 = (t.scan text).1 := by rw [scan_parity]
    rw [← line, bits]
    rfl
  have there : ((fresh : Tracker UInt64).scan ('{' :: '{' :: text)).1 =
      (scanFrom fresh (fresh : Tracker Bool).enter false text).1 := by
    have line : ((fresh : Tracker UInt64).parity.scan ('{' :: '{' :: text)).1 = _ :=
      congrArg Prod.fst (scan_parity _ _)
    rw [← line, parity_fresh, scan]
    exact congrArg Prod.fst (scanFrom_marker _ _ _ _)
  rw [here, there, scanFrom_start fresh.enter fresh _ _ _ rfl rfl]

/-- A line that begins outside breaks the rule exactly when one of the closed expressions of its
text has an odd number of double quotes, or of single quotes outside its double-quoted spans. A line
that begins within an expression at even counts is judged as if it began with the marker. Hence
nothing without an open brace that stands outside the expressions changes the verdict, and neither
does the length of a run of braces. -/
theorem verdict_of_expressions :
    (∀ (t : Tracker UInt64) (text : List Char), t.inside = false →
      ((t.scan text).1 = true ↔
        ∃ body ∈ closed text, Odd (body.count '"') ∨ Odd (outerSingles false body))) ∧
    (∀ (t : Tracker UInt64) (text : List Char), t.inside = true →
      Tally.isOdd t.singles = false → Tally.isOdd t.doubles = false →
      (t.scan text).1 = ((fresh : Tracker UInt64).scan ('{' :: '{' :: text)).1) ∧
    (∀ (t : Tracker UInt64) (front stray back : List Char), t.inside = false →
      IsComplete front → '{' ∉ stray → AreApart '{' front back →
      (t.scan (front ++ stray ++ back)).1 = (t.scan (front ++ back)).1) ∧
    ∀ (t : Tracker UInt64) (front back : List Char) (brace : Char) (more : Nat),
      brace = '{' ∨ brace = '}' →
      t.scan (front ++ (List.replicate (more + 2) brace ++ back)) =
        t.scan (front ++ brace :: brace :: back) := by
  refine ⟨?_, scan_inside_eq, ?_, ?_⟩
  · intro t text outside
    rw [scan_outside_iff t text outside]
    simp only [not_isBalanced_iff]
  · intro t front stray back outside complete free apart
    apply Bool.eq_iff_iff.mpr
    rw [scan_outside_iff t _ outside, scan_outside_iff t _ outside,
      closed_insert front stray back complete free apart]
  · intro t front back brace more kind
    exact scanFrom_append_congr _ _ _ (by rfl) (scanFrom_run _ brace kind more back) front _ _

theorem verdict_of_expressions_beside_stray_quotes :
    let left : Tracker UInt64 := ⟨false, 3, 1⟩
    let entered : Tracker UInt64 := ⟨true, 2, 4⟩
    let front := "\x7b\x7b 'a' \x7d\x7d".toList
    let back := "\x7b\x7b \"it's \x7d\x7d".toList
    IsComplete front ∧
      (left.scan (front ++ "\x7d\x7d '\"".toList ++ back)).1 = (left.scan (front ++ back)).1 ∧
      ((left.scan back).1 = true ↔
        ∃ body ∈ closed back, Odd (body.count '"') ∨ Odd (outerSingles false body)) ∧
      (entered.scan back).1 = ((fresh : Tracker UInt64).scan ('{' :: '{' :: back)).1 ∧
      left.scan (front ++ (List.replicate 5 '}' ++ back)) =
        left.scan (front ++ '}' :: '}' :: back) := by
  intro left entered front back
  have complete : IsComplete front := .expression _ " 'a' ".toList [] (by decide) .nil
  obtain ⟨outside, inside, stray, run⟩ := verdict_of_expressions
  exact ⟨complete, stray left front _ back rfl complete (by decide) (by decide),
    outside left back rfl,
    inside entered back rfl (by decide) (by decide), run left front back '}' 3 (.inr rfl)⟩

end QuoteLint.Tracker
