import QuoteLint.Proofs.Quote.Expression
import QuoteLint.Proofs.Quote.Parity

/-! A line that holds a whole expression with an odd number of double quotes. Such a line is
reported unless it was entered within an expression at an odd count of double quotes: then its own
odd expression makes the count even, and only another check can find the line. -/

namespace QuoteLint.Tracker

variable {κ : Type} [Tally κ] {start t : Tracker κ} {quoted : Bool} {text : List Char}
  {result : Bool × Tracker κ}

theorem Reading.closed_of_stopped (reading : Reading start t quoted text result)
    (stopped : result.1 = true) : result.2.inside = false ∧ turnedOdd start result.2 = true := by
  induction reading with
  | done => cases stopped
  | stop t quoted c rest closing turned => exact ⟨rfl, turned⟩
  | leave t quoted c rest result closing even later ih => exact ih stopped
  | enter t quoted c rest result opening later ih => exact ih stopped
  | count t quoted c rest result inside closing later ih => exact ih stopped
  | skip t quoted c rest result outside closing opening later ih => exact ih stopped

theorem Reading.settled (reading : Reading start t quoted text result)
    (settled : t.inside = false → turnedOdd start t = false) (passed : result.1 = false)
    (outside : result.2.inside = false) : turnedOdd start result.2 = false := by
  induction reading with
  | done => exact settled outside
  | stop => cases passed
  | leave t quoted c rest result closing even later ih => exact ih (fun _ => even) passed outside
  | enter t quoted c rest result opening later ih => exact ih (by simp) passed outside
  | count t quoted c rest result inside closing later ih =>
      exact ih (by simp [count_inside, inside]) passed outside
  | skip t quoted c rest result aside closing opening later ih => exact ih settled passed outside

theorem scanFrom_brace (start t : Tracker κ) (quoted : Bool) (rest : List Char)
    (inside : t.inside = true) :
    scanFrom start t quoted ('{' :: rest) = scanFrom start t quoted rest := by
  rw [scanFrom_inside _ _ _ _ _ inside (by simp), count_of_ne _ _ _ (by decide) (by decide)]

theorem scanFrom_marker (start t : Tracker κ) (quoted : Bool) (rest : List Char) :
    scanFrom start t quoted ('{' :: '{' :: rest) = scanFrom start t.enter quoted rest := by
  rw [scanFrom_opening _ _ _ _ _ ⟨rfl, rfl⟩, scanFrom_brace _ _ _ _ t.enter_inside]

theorem Reading.before_marker (reading : Reading start t quoted text result) (rest : List Char)
    (passed : result.1 = false) (outside : result.2.inside = false) :
    ∃ flag, scanFrom start t quoted (text ++ '{' :: '{' :: rest) =
      scanFrom start result.2.enter flag rest := by
  have never_closes (front : List Char) :=
    head?_append_of_ne '}' front ('{' :: '{' :: rest) (by simp)
  induction reading with
  | done t quoted => exact ⟨quoted, scanFrom_marker start t quoted rest⟩
  | stop => cases passed
  | leave t quoted c front result closing even later ih =>
      obtain ⟨flag, next⟩ := ih passed outside
      refine ⟨flag, ?_⟩
      have closes := (never_closes front).mpr closing.2
      rw [List.cons_append, scanFrom_closing _ _ _ _ _ ⟨closing.1, closes⟩,
        if_neg (by simp [even]), next]
  | enter t quoted c front result opening later ih =>
      obtain ⟨flag, next⟩ := ih passed outside
      obtain ⟨others, rfl⟩ := List.head?_eq_some_iff.mp opening.2
      refine ⟨flag, ?_⟩
      rw [List.cons_append, scanFrom_opening _ _ _ _ _ ⟨opening.1, rfl⟩, next]
  | count t quoted c front result inside closing later ih =>
      obtain ⟨flag, next⟩ := ih passed outside
      refine ⟨flag, ?_⟩
      rw [List.cons_append, scanFrom_inside _ _ _ _ _ inside (by rwa [never_closes]), next]
  | skip t quoted c front result aside closing opening later ih =>
      rw [List.cons_append]
      by_cases joins : c = '{' ∧ (front ++ '{' :: '{' :: rest).head? = some '{'
      -- A brace at the very end of the text makes a marker with the brace that follows.
      · cases front with
        | nil =>
            cases later
            refine ⟨quoted, ?_⟩
            rw [scanFrom_opening _ _ _ _ _ joins]
            exact scanFrom_marker start t.enter quoted rest
        | cons first others => exact absurd joins opening
      · obtain ⟨flag, next⟩ := ih passed outside
        refine ⟨flag, ?_⟩
        rw [scanFrom_outside _ _ _ _ _ aside (by rwa [never_closes]) joins, next]

theorem scanFrom_step (start t : Tracker κ) (quoted : Bool) (c : Char) (next : Option Char) :
    (c = '}' ∧ next = some '}' ∧
      ∀ rest : List Char, rest.head? = next →
        scanFrom start t quoted (c :: rest) = (true, t.leave)) ∨
    ∃ u flag, ∀ rest : List Char, rest.head? = next →
      scanFrom start t quoted (c :: rest) = scanFrom start u flag rest := by
  by_cases closing : c = '}' ∧ next = some '}'
  · cases turned : turnedOdd start t.leave with
    | true =>
        refine .inl ⟨closing.1, closing.2, ?_⟩
        intro rest head
        rw [scanFrom_closing _ _ _ _ _ (by rwa [head]), if_pos turned]
    | false =>
        refine .inr ⟨t.leave, quoted, ?_⟩
        intro rest head
        rw [scanFrom_closing _ _ _ _ _ (by rwa [head]), if_neg (by simp [turned])]
  · right
    by_cases opening : c = '{' ∧ next = some '{'
    · refine ⟨t.enter, quoted, ?_⟩
      intro rest head
      exact scanFrom_opening _ _ _ _ _ (by rwa [head])
    · cases side : t.inside with
      | true =>
          refine ⟨(t.count quoted c).1, (t.count quoted c).2, ?_⟩
          intro rest head
          exact scanFrom_inside _ _ _ _ _ side (by rwa [head])
      | false =>
          refine ⟨t, quoted, ?_⟩
          intro rest head
          exact scanFrom_outside _ _ _ _ _ side (by rwa [head]) (by rwa [head])

theorem scanFrom_single (start t : Tracker κ) (quoted : Bool) (c : Char) :
    (scanFrom start t quoted [c]).1 = false := by
  rcases scanFrom_step start t quoted c none with ⟨-, missing, -⟩ | ⟨u, flag, goes⟩
  · cases missing
  · rw [goes [] rfl]
    rfl

theorem scanFrom_stopped (start t : Tracker κ) (quoted : Bool) (text : List Char)
    (stopped : (scanFrom start t quoted text).1 = true) :
    ∃ front back, text = front ++ '}' :: '}' :: back ∧
      (scanFrom start t quoted (front ++ ['}'])).1 = false ∧
      ∀ other, scanFrom start t quoted (front ++ '}' :: '}' :: other) =
        scanFrom start t quoted text := by
  induction text generalizing t quoted with
  | nil => cases stopped
  | cons c rest ih =>
      rcases scanFrom_step start t quoted c rest.head? with ⟨rfl, next, stops⟩ | ⟨u, flag, goes⟩
      · rcases List.head?_eq_some_iff.mp next with ⟨back, rfl⟩
        refine ⟨[], back, rfl, scanFrom_single start t quoted '}', ?_⟩
        intro other
        exact (stops ('}' :: other) rfl).trans (stops ('}' :: back) rfl).symm
      · rw [goes rest rfl] at stopped ⊢
        rcases ih u flag stopped with ⟨front, back, rfl, before, same⟩
        -- Whatever comes behind the first brace of the marker, the character after `c` is the same.
        have head (tail : List Char) :
            (front ++ '}' :: tail).head? = (front ++ '}' :: '}' :: back).head? := by
          simp [List.head?_append]
        refine ⟨c :: front, back, rfl, ?_, ?_⟩
        · rw [List.cons_append, goes _ (head []), before]
        · intro other
          rw [List.cons_append, goes _ (head ('}' :: other)), same]

theorem scanFrom_append_of_stopped (start t : Tracker κ) (quoted : Bool) (text back : List Char)
    (stopped : (scanFrom start t quoted text).1 = true) :
    scanFrom start t quoted (text ++ back) = scanFrom start t quoted text := by
  rcases scanFrom_stopped start t quoted text stopped with ⟨front, rest, rfl, -, same⟩
  have whole : front ++ '}' :: '}' :: rest ++ back = front ++ '}' :: '}' :: (rest ++ back) := by
    simp
  rw [whole, same]

theorem turnedOdd_self (t : Tracker κ) : turnedOdd t t = false := by
  simp [turnedOdd]

variable [LawfulTally κ]

theorem scanFrom_odd_body (start t : Tracker κ) (quoted : Bool) (text body post : List Char)
    (even : Tally.isOdd start.doubles = false) (inside : t.inside = true)
    (cut : Expression.close? text = some (body, post))
    (odd : (Tally.isOdd t.doubles ^^ decide (Odd (body.count '"'))) = true) :
    (scanFrom start t quoted text).1 = true := by
  induction text generalizing t quoted body with
  | nil => cases cut
  | cons c rest ih =>
      by_cases closing : c = '}' ∧ rest.head? = some '}'
      · rw [Expression.close?_marker c rest closing] at cut
        obtain ⟨rfl, -⟩ := Prod.mk.inj (Option.some.inj cut)
        have turned : turnedOdd start t.leave = true := by
          simp only [List.count_nil, Nat.not_odd_zero, decide_false, Bool.xor_false] at odd
          simp [turnedOdd, even, odd]
        rw [scanFrom_closing _ _ _ _ _ closing, if_pos turned]
      · obtain ⟨inner, next, rfl⟩ := (Expression.close?_other_iff c rest body post closing).mp cut
        rw [scanFrom_inside _ _ _ _ _ inside closing]
        refine ih _ _ inner (by rw [count_inside, inside]) next ?_
        calc
          _ = (decide (c = '"') ^^ Tally.isOdd t.doubles ^^ decide (Odd (inner.count '"'))) := by
            rw [isOdd_count_doubles]
          _ = (Tally.isOdd t.doubles ^^ decide (Odd ((c :: inner).count '"'))) := by
            rw [Expression.odd_count_cons, Bool.xor_comm (decide _) (Tally.isOdd t.doubles),
              Bool.xor_assoc]
          _ = true := odd

theorem scan_broken (t : Tracker κ) (front rest body post : List Char)
    (even : Tally.isOdd t.atLineStart.doubles = false) (outside : (t.scan front).2.inside = false)
    (cut : Expression.close? rest = some (body, post)) (odd : Odd (body.count '"')) :
    (t.scan (front ++ '{' :: '{' :: rest)).1 = true := by
  have reading := reading_scanFrom t.atLineStart t.atLineStart false front
  cases verdict : (t.scan front).1 with
  | true => rw [scan, scanFrom_append_of_stopped _ _ _ _ _ verdict, ← scan, verdict]
  | false =>
      have quiet := reading.settled (fun _ => turnedOdd_self _) verdict outside
      have clean : Tally.isOdd (t.scan front).2.doubles = false := by
        simp only [turnedOdd, even, Bool.not_false, Bool.and_true, Bool.or_eq_false_iff] at quiet
        exact quiet.2
      obtain ⟨flag, next⟩ := reading.before_marker rest verdict outside
      rw [scan, next]
      refine scanFrom_odd_body _ _ flag rest body post even (enter_inside _) cut ?_
      change (Tally.isOdd (t.scan front).2.doubles ^^ _) = true
      simp [clean, odd]

/-! Single quotes alone, on a line that was entered at an odd count of double quotes. -/

section Singles

open Expression (outerSingles within)

theorem outerSingles_of_ne (quoted : Bool) (c : Char) (inner : List Char) (double : c ≠ '"')
    (single : c ≠ '\'') : outerSingles quoted (c :: inner) = outerSingles quoted inner := by
  simp [outerSingles, double, single]

theorem isOdd_count_singles (t : Tracker κ) (quoted : Bool) (c : Char) (inner : List Char) :
    (Tally.isOdd (count t quoted c).1.singles ^^
        decide (Odd (outerSingles (count t quoted c).2 inner))) =
      (Tally.isOdd t.singles ^^ decide (Odd (outerSingles quoted (c :: inner)))) := by
  unfold count
  rw [outerSingles]
  split
  · rfl
  · cases quoted with
    | true => simp
    | false =>
        by_cases single : c = '\''
        · simp [single, Nat.odd_add_one, -Nat.not_odd_iff_even]
        · simp [single]

theorem exists_marker_cons (c : Char) (rest : List Char) (fits : List Char → Prop) :
    (∃ upto post, c :: rest = upto ++ '}' :: '}' :: post ∧ fits upto) ↔
      (c = '}' ∧ rest.head? = some '}') ∧ fits [] ∨
      ∃ upto post, rest = upto ++ '}' :: '}' :: post ∧ fits (c :: upto) := by
  constructor
  · intro marker
    rcases marker with ⟨upto, post, cut, fit⟩
    cases upto with
    | nil =>
        rcases List.cons.inj cut with ⟨rfl, rfl⟩
        exact .inl ⟨⟨rfl, rfl⟩, fit⟩
    | cons first others =>
        rcases List.cons.inj cut with ⟨rfl, rfl⟩
        exact .inr ⟨others, post, rfl, fit⟩
  · intro marker
    rcases marker with ⟨⟨rfl, next⟩, fit⟩ | ⟨upto, post, rfl, fit⟩
    · rcases List.head?_eq_some_iff.mp next with ⟨post, rfl⟩
      exact ⟨[], post, rfl, fit⟩
    · exact ⟨c :: upto, post, rfl, fit⟩

theorem exists_marker_congr {text : List Char} {fits others : List Char → Prop}
    (same : ∀ upto post, text = upto ++ '}' :: '}' :: post → (fits upto ↔ others upto)) :
    (∃ upto post, text = upto ++ '}' :: '}' :: post ∧ fits upto) ↔
      ∃ upto post, text = upto ++ '}' :: '}' :: post ∧ others upto := by
  refine exists_congr fun upto => exists_congr fun post => ?_
  exact and_congr_right (same upto post)

variable {upto post : List Char} {c : Char}

theorem outerSingles_within_closing (quoted entered : Bool)
    (closing : c = '}' ∧ (upto ++ '}' :: post).head? = some '}') :
    outerSingles quoted (within entered (c :: upto)) = outerSingles quoted (within false upto) := by
  rcases closing with ⟨rfl, next⟩
  cases upto with
  | nil => cases entered <;> rfl
  | cons first others =>
      have again : first = '}' := by simpa using next
      rw [within, if_pos ⟨rfl, by simp [again]⟩]

theorem within_other (entered : Bool)
    (closing : ¬ (c = '}' ∧ (upto ++ '}' :: post).head? = some '}')) :
    within entered (c :: upto) =
      if entered = true ∨ c = '{' ∧ (upto ++ '}' :: post).head? = some '{' then
        c :: within true upto
      else within false upto := by
  have open_head := head?_append_of_ne '{' upto ('}' :: post) (by simp)
  have unclosed : ¬ (c = '}' ∧ upto.head? = some '}') := by
    intro both
    apply closing
    simp [both.1, List.head?_append, both.2]
  rw [within, if_neg unclosed]
  simp only [open_head]

theorem scanFrom_singles_iff (start t : Tracker κ) (quoted : Bool) (text : List Char)
    (doubles : Tally.isOdd start.doubles = true) (singles : Tally.isOdd start.singles = false) :
    (scanFrom start t quoted text).1 = true ↔
      ∃ upto post, text = upto ++ '}' :: '}' :: post ∧
        (Tally.isOdd t.singles ^^ decide (Odd (outerSingles quoted (within t.inside upto)))) =
          true := by
  -- what the tracker has counted and what is still to be counted are odd or even together, so that
  -- a step moves one quote from the second to the first
  induction text generalizing t quoted with
  | nil => simp [scanFrom]
  | cons c rest ih =>
      rw [exists_marker_cons]
      by_cases closing : c = '}' ∧ rest.head? = some '}'
      · have turned : turnedOdd start t.leave = Tally.isOdd t.singles := by
          simp [turnedOdd, doubles, singles]
        rw [scanFrom_closing _ _ _ _ _ closing, turned]
        cases here : Tally.isOdd t.singles with
        | true => simp [closing, within, outerSingles]
        | false =>
            have front : ¬ (false ^^ decide (Odd (outerSingles quoted (within t.inside [])))) =
                true := by
              simp [within, outerSingles]
            rw [if_neg (by decide), ih, leave_singles, leave_inside, here,
              or_iff_right fun both => front both.2]
            apply exists_marker_congr
            intro upto post cut
            rw [outerSingles_within_closing quoted t.inside (cut ▸ closing)]
      · rw [or_iff_right fun both => closing both.1]
        by_cases opening : c = '{' ∧ rest.head? = some '{'
        · rw [scanFrom_opening _ _ _ _ _ opening, ih]
          apply exists_marker_congr
          intro upto post cut
          rw [within_other t.inside (cut ▸ closing), if_pos (.inr (cut ▸ opening)),
            outerSingles_of_ne _ _ _ (by simp [opening.1]) (by simp [opening.1])]
          rfl
        · cases side : t.inside with
          | true =>
              rw [scanFrom_inside _ _ _ _ _ side closing, ih, count_inside, side]
              apply exists_marker_congr
              intro upto post cut
              rw [isOdd_count_singles, within_other true (cut ▸ closing), if_pos (.inl rfl)]
          | false =>
              rw [scanFrom_outside _ _ _ _ _ side closing opening, ih, side]
              apply exists_marker_congr
              intro upto post cut
              subst cut
              rw [within_other false closing, if_neg (not_or.mpr ⟨by simp, opening⟩)]

/-- A line entered at an odd count of double quotes breaks the rule exactly when it was entered at
an even count of single quotes and closes an expression at an odd one. -/
theorem scan_singles_iff (t : Tracker κ) (text : List Char) (inside : t.inside = true)
    (odd : Tally.isOdd t.doubles = true) :
    (t.scan text).1 = true ↔ Tally.isOdd t.singles = false ∧
      ∃ upto post, text = upto ++ '}' :: '}' :: post ∧
        Odd (outerSingles false (within true upto)) := by
  have start : t.atLineStart = t := by rw [atLineStart, if_pos inside]
  rw [scan, start]
  cases singles : Tally.isOdd t.singles with
  | true =>
      refine iff_of_false ?_ (by simp)
      intro stopped
      have turned := ((reading_scanFrom t t false text).closed_of_stopped stopped).2
      simp [turnedOdd, odd, singles] at turned
  | false =>
      rw [scanFrom_singles_iff t t false text odd singles, and_iff_right rfl, singles, inside]
      simp

end Singles

end QuoteLint.Tracker

namespace QuoteLint.MismatchedQuotes

/-- A scanned line that opens an expression outside every other one, and closes it at the first
close marker with an odd number of double quotes between, is reported exactly when it was not
entered within an expression at an odd count of double quotes, or when the scalar check is against
it, or when its single quotes are: their count was even at the start of the line and is odd where an
expression closes on it. -/
theorem broken_expression_reported_iff (content : String) (front back : List Line) (line : Line)
    (lines : scannableLines content = front ++ line :: back) (before body post : List Char)
    (text : line.text.toList = before ++ '{' :: '{' :: (body ++ '}' :: '}' :: post))
    (first : ¬ ['}', '}'] <:+: body ++ ['}'])
    (outside : ((carried front).scan before).2.inside = false) (odd : Odd (body.count '"')) :
    (∃ found ∈ find content, found.line = line.number) ↔
      ¬ ((carried front).inside = true ∧ Tally.isOdd (carried front).doubles = true) ∨
      isBadScalar line.text.toList = true ∨
      Tally.isOdd (carried front).singles = false ∧
        ∃ upto rest, line.text.toList = upto ++ '}' :: '}' :: rest ∧
          Odd (Expression.outerSingles false (Expression.within true upto)) := by
  rw [reported_iff content front back line lines]
  have cut : Expression.close? (body ++ '}' :: '}' :: post) = some (body, post) :=
    (Expression.close?_eq_some_iff _ body post).mpr ⟨rfl, first⟩
  by_cases entered : (carried front).inside = true ∧ Tally.isOdd (carried front).doubles = true
  · rw [or_iff_right (not_not_intro entered), Or.comm,
      Tracker.scan_singles_iff (carried front) line.text.toList entered.1 entered.2]
  · have even : Tally.isOdd (carried front).atLineStart.doubles = false := by
      unfold Tracker.atLineStart
      split
      · next inside => simpa [inside] using entered
      · rfl
    have broken := Tracker.scan_broken (carried front) before _ body post even outside cut odd
    rw [← text] at broken
    simp [entered, broken]

theorem broken_expression_reported_after_carried_one :
    let front : List Line := [⟨1, "\x7b\x7b 'a"⟩]
    let line : Line := ⟨2, "\x7d\x7d \x7b\x7b \"b \x7d\x7d"⟩
    (carried front).inside = true ∧
      ∃ found ∈ find "\x7b\x7b 'a\n\x7d\x7d \x7b\x7b \"b \x7d\x7d", found.line = line.number :=
  ⟨by decide +kernel,
    (broken_expression_reported_iff "\x7b\x7b 'a\n\x7d\x7d \x7b\x7b \"b \x7d\x7d"
      [⟨1, "\x7b\x7b 'a"⟩] [] ⟨2, "\x7d\x7d \x7b\x7b \"b \x7d\x7d"⟩ (by decide +kernel)
      "\x7d\x7d ".toList " \"b ".toList [] (by decide +kernel) (by decide +kernel)
      (by decide +kernel) (by decide +kernel)).mpr (.inl (by decide +kernel))⟩

/-- Not every line with an odd expression of its own is reported: here the quote of the first line
makes the count of the second line even. -/
theorem broken_expression_missed :
    ¬ ∀ (content : String) (front back : List Line) (line : Line),
      scannableLines content = front ++ line :: back → ∀ before body post : List Char,
      line.text.toList = before ++ '{' :: '{' :: (body ++ '}' :: '}' :: post) →
      ¬ ['}', '}'] <:+: body ++ ['}'] →
      ((carried front).scan before).2.inside = false → Odd (body.count '"') →
      ∃ found ∈ find content, found.line = line.number := by
  intro always
  have found := always "\x7b\x7b \"a\n\x7d\x7d \x7b\x7b \"b \x7d\x7d" [⟨1, "\x7b\x7b \"a"⟩] []
    ⟨2, "\x7d\x7d \x7b\x7b \"b \x7d\x7d"⟩ (by decide +kernel) "\x7d\x7d ".toList " \"b ".toList []
    (by decide +kernel) (by decide +kernel) (by decide +kernel) (by decide +kernel)
  have silent : find "\x7b\x7b \"a\n\x7d\x7d \x7b\x7b \"b \x7d\x7d" = [] := by decide +kernel
  rw [silent] at found
  obtain ⟨missing, member, -⟩ := found
  cases member

end QuoteLint.MismatchedQuotes
