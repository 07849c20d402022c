import QuoteLint.Proofs.Quote.Expression
import QuoteLint.Proofs.Quote.Parity

/-! The tracker judges expressions one by one. As long as no line ends within an expression at an
odd count, a document gets no verdict against it exactly when each of its closed expressions is
balanced.

The argument runs on the tracker of three bits. `BalancedFrom u text` says of a text still to be
read what the bits of `u` leave open: each step of the reader preserves it, and so does each
line. -/

namespace QuoteLint.Expression

def tally (u : Tracker Bool) (body : List Char) : Tracker Bool :=
  body.foldl (fun state c => (state.count state.doubles c).1) u

theorem tally_cons (u : Tracker Bool) (c : Char) (body : List Char) :
    tally u (c :: body) = tally (u.count u.doubles c).1 body := rfl

theorem count_quoted (u : Tracker Bool) (c : Char) :
    (u.count u.doubles c).2 = (u.count u.doubles c).1.doubles := by
  unfold Tracker.count
  split
  · rfl
  · split <;> rfl

theorem tally_doubles (u : Tracker Bool) (body : List Char) :
    (tally u body).doubles = (u.doubles ^^ decide (Odd (body.count '"'))) := by
  induction body generalizing u with
  | nil => simp [tally]
  | cons c rest ih =>
      have counted := Tracker.isOdd_count_doubles u u.doubles c
      change (u.count u.doubles c).1.doubles = (decide (c = '"') ^^ u.doubles) at counted
      rw [tally_cons, ih, counted, odd_count_cons, Bool.xor_comm (decide _) u.doubles,
        Bool.xor_assoc]

theorem tally_singles (u : Tracker Bool) (body : List Char) :
    (tally u body).singles = (u.singles ^^ decide (Odd (outerSingles u.doubles body))) := by
  induction body generalizing u with
  | nil => simp [tally, outerSingles]
  | cons c rest ih =>
      rw [tally_cons, ih, outerSingles]
      by_cases double : c = '"'
      · subst double
        rfl
      · rw [if_neg double]
        by_cases outer : c = '\'' ∧ u.doubles = false
        · have counted : (u.count u.doubles c).1 = { u with singles := !u.singles } := by
            simp [Tracker.count, outer, Tally.raise]
          rw [counted, if_pos outer]
          by_cases odd : Odd (outerSingles u.doubles rest)
          · simp [odd, Nat.odd_add_one]
          · simp [odd, Nat.odd_add_one]
        · have counted : (u.count u.doubles c).1 = u := by
            have quoted : ¬ (c = '\'' && !u.doubles) = true := by simpa using outer
            rw [Tracker.count, if_neg double, if_neg quoted]
          rw [counted, if_neg outer]

theorem tally_fresh_iff (body : List Char) (u : Tracker Bool)
    (even : u.singles = false ∧ u.doubles = false) :
    ((tally u body).singles = false ∧ (tally u body).doubles = false) ↔ IsBalanced body := by
  rw [tally_singles, tally_doubles, even.1, even.2]
  simp [IsBalanced, and_comm]

/-- Every expression that closes in `text` is balanced, where `u` tells whether one is open at its
start and what was counted of that one before. -/
def BalancedFrom (u : Tracker Bool) (text : List Char) : Prop :=
  if u.inside then
    ∀ body post, close? text = some (body, post) →
      ((tally u body).singles = false ∧ (tally u body).doubles = false) ∧
        ∀ expression ∈ closed post, IsBalanced expression
  else ∀ expression ∈ closed text, IsBalanced expression

theorem balancedFrom_inside (u : Tracker Bool) (text : List Char) (inside : u.inside = true) :
    BalancedFrom u text ↔ ∀ body post, close? text = some (body, post) →
      ((tally u body).singles = false ∧ (tally u body).doubles = false) ∧
        ∀ expression ∈ closed post, IsBalanced expression := by
  rw [BalancedFrom, if_pos inside]

theorem balancedFrom_outside (u : Tracker Bool) (text : List Char) (outside : u.inside = false) :
    BalancedFrom u text ↔ ∀ expression ∈ closed text, IsBalanced expression := by
  rw [BalancedFrom, if_neg (by simp [outside])]

/-! What one step of the reader does to it, by what stands at the head of the text. -/

theorem balancedFrom_skip (u : Tracker Bool) (c : Char) (rest : List Char)
    (outside : u.inside = false)
    (opening : ¬ (c = '{' ∧ rest.head? = some '{')) :
    BalancedFrom u (c :: rest) ↔ BalancedFrom u rest := by
  rw [balancedFrom_outside u _ outside, balancedFrom_outside u _ outside,
    closed_outside c rest opening]

theorem balancedFrom_count (u : Tracker Bool) (c : Char) (rest : List Char)
    (inside : u.inside = true)
    (closing : ¬ (c = '}' ∧ rest.head? = some '}')) :
    BalancedFrom u (c :: rest) ↔ BalancedFrom (u.count u.doubles c).1 rest := by
  have counted : (u.count u.doubles c).1.inside = true := by rw [Tracker.count_inside, inside]
  rw [balancedFrom_inside u _ inside, balancedFrom_inside _ _ counted]
  constructor
  · intro judged body post found
    exact judged (c :: body) post ((close?_other_iff c rest _ post closing).mpr ⟨body, found, rfl⟩)
  · intro judged body post found
    obtain ⟨inner, next, rfl⟩ := (close?_other_iff c rest body post closing).mp found
    exact judged inner post next

theorem balancedFrom_close (u : Tracker Bool) (c : Char) (rest : List Char)
    (inside : u.inside = true)
    (closing : c = '}' ∧ rest.head? = some '}') :
    BalancedFrom u (c :: rest) ↔
      (u.singles = false ∧ u.doubles = false) ∧ BalancedFrom u.leave rest := by
  rw [balancedFrom_inside u _ inside, balancedFrom_outside _ _ u.leave_inside,
    close?_marker c rest closing]
  -- The reader goes on at the second brace of the marker, the cut after it.
  have second : closed rest = closed rest.tail := by
    obtain ⟨tail, rfl⟩ := List.head?_eq_some_iff.mp closing.2
    exact closed_outside _ _ (by simp)
  rw [second]
  constructor
  · intro judged
    exact judged [] rest.tail rfl
  · rintro judged body post found
    obtain ⟨rfl, rfl⟩ := Prod.mk.inj (Option.some.inj found)
    exact judged

theorem balancedFrom_open (u : Tracker Bool) (c : Char) (rest : List Char)
    (outside : u.inside = false) (even : u.singles = false ∧ u.doubles = false)
    (opening : c = '{' ∧ rest.head? = some '{') :
    BalancedFrom u (c :: rest) ↔ BalancedFrom u.enter rest := by
  obtain ⟨rfl, next⟩ := opening
  obtain ⟨tail, rfl⟩ := List.head?_eq_some_iff.mp next
  have counted : u.enter.count u.enter.doubles '{' = (u.enter, u.enter.doubles) :=
    Tracker.count_of_ne _ _ _ (by decide) (by decide)
  rw [balancedFrom_outside u _ outside, balancedFrom_count _ _ _ u.enter_inside (by simp), counted,
    balancedFrom_inside _ _ u.enter_inside]
  cases cut : close? tail with
  | none => simp [closed_unclosed tail cut]
  | some found =>
      obtain ⟨body, post⟩ := found
      rw [closed_open tail body post cut, List.forall_mem_cons, ← tally_fresh_iff body u.enter even]
      constructor
      · rintro judged inner after equal
        obtain ⟨rfl, rfl⟩ := Prod.mk.inj (Option.some.inj equal)
        exact judged
      · intro judged
        exact judged body post rfl

theorem turnedOdd_of_even (start now : Tracker Bool)
    (even : start.singles = false ∧ start.doubles = false) :
    Tracker.turnedOdd start now = (now.singles || now.doubles) := by
  simp [Tracker.turnedOdd, even.1, even.2, Tally.isOdd]

theorem balancedFrom_reading (start u : Tracker Bool) (quoted : Bool) (text tail : List Char)
    (result : Bool × Tracker Bool) (reading : Tracker.Reading start u quoted text result)
    (even : start.singles = false ∧ start.doubles = false) (flag : quoted = u.doubles)
    (settled : u.inside = false → u.singles = false ∧ u.doubles = false)
    (ends : ∀ next ∈ tail.head?, next = '\n') :
    BalancedFrom u (text ++ tail) ↔ result.1 = false ∧ BalancedFrom result.2 tail := by
  -- Between lines stands a newline, which belongs to no marker.
  have apart (brace : Char) (other : brace ≠ '\n') : tail.head? ≠ some brace :=
    fun head => other (ends brace head)
  have closes (text : List Char) := Tracker.head?_append_of_ne '}' text tail (apart '}' (by decide))
  have opens (text : List Char) := Tracker.head?_append_of_ne '{' text tail (apart '{' (by decide))
  induction reading with
  | done u quoted => simp
  | stop u quoted c rest closing turned =>
      rw [turnedOdd_of_even start _ even] at turned
      have odd : ¬ (u.singles = false ∧ u.doubles = false) := by
        rintro ⟨singles, doubles⟩
        simp [singles, doubles] at turned
      have inside : u.inside = true := by
        by_contra outside
        exact odd (settled (by simpa using outside))
      rw [List.cons_append,
        balancedFrom_close u c _ inside ⟨closing.1, (closes rest).mpr closing.2⟩]
      simp [odd]
  | leave u quoted c rest result closing passes later ih =>
      rw [turnedOdd_of_even start _ even] at passes
      have clean : u.singles = false ∧ u.doubles = false := by simpa using passes
      have next : BalancedFrom u.leave (rest ++ tail) ↔ _ := ih flag fun _ => clean
      rw [List.cons_append, ← next]
      cases side : u.inside with
      | true =>
          rw [balancedFrom_close u c _ side ⟨closing.1, (closes rest).mpr closing.2⟩]
          exact and_iff_right clean
      | false =>
          rw [balancedFrom_skip u c _ side (by simp [closing.1]), balancedFrom_outside u _ side,
            balancedFrom_outside _ _ u.leave_inside]
  | enter u quoted c rest result opening later ih =>
      have next : BalancedFrom u.enter (rest ++ tail) ↔ _ := ih flag (by simp)
      rw [List.cons_append, ← next]
      cases side : u.inside with
      | true =>
          rw [balancedFrom_count u c _ side (by simp [opening.1]), u.enter_of_inside side,
            Tracker.count_of_ne _ _ _ (by simp [opening.1]) (by simp [opening.1])]
      | false =>
          exact balancedFrom_open u c _ side (settled side) ⟨opening.1, (opens rest).mpr opening.2⟩
  | count u quoted c rest result inside closing later ih =>
      subst flag
      rw [List.cons_append, balancedFrom_count u c _ inside (by rwa [closes])]
      exact ih (count_quoted u c) (by simp [Tracker.count_inside, inside])
  | skip u quoted c rest result outside closing opening later ih =>
      rw [List.cons_append, balancedFrom_skip u c _ outside (by rwa [opens])]
      exact ih flag settled

/-- No expression is open, or both counts are even. The next line then begins with even counts. -/
def OutsideOrEven {κ : Type} [Tally κ] (t : Tracker κ) : Prop :=
  t.inside = false ∨ (Tally.isOdd t.singles = false ∧ Tally.isOdd t.doubles = false)

instance {κ : Type} [Tally κ] (t : Tracker κ) : Decidable (OutsideOrEven t) :=
  inferInstanceAs (Decidable (_ ∨ _))

theorem even_atLineStart (u : Tracker Bool) (even : OutsideOrEven u) :
    u.atLineStart.singles = false ∧ u.atLineStart.doubles = false := by
  unfold Tracker.atLineStart
  split
  · next inside =>
      rcases even with outside | even
      · exact absurd inside (by simp [outside])
      · exact even
  · exact ⟨rfl, rfl⟩

theorem balancedFrom_atLineStart (u : Tracker Bool) (text : List Char) :
    BalancedFrom u.atLineStart text ↔ BalancedFrom u text := by
  unfold Tracker.atLineStart
  split
  · rfl
  · next outside =>
      rw [balancedFrom_outside u _ (by simpa using outside), balancedFrom_outside _ _ rfl]

theorem balancedFrom_scan (u : Tracker Bool) (text tail : List Char) (even : OutsideOrEven u)
    (ends : ∀ next ∈ tail.head?, next = '\n') :
    BalancedFrom u (text ++ tail) ↔
      (u.scan text).1 = false ∧ BalancedFrom (u.scan text).2 tail := by
  have clean := even_atLineStart u even
  have reading := Tracker.reading_scanFrom u.atLineStart u.atLineStart false text
  rw [← balancedFrom_atLineStart]
  exact balancedFrom_reading _ _ _ _ _ _ reading clean clean.2.symm (fun _ => clean) ends

theorem balancedFrom_newline (u : Tracker Bool) (text : List Char) :
    BalancedFrom u ('\n' :: text) ↔ BalancedFrom u text := by
  cases side : u.inside with
  | true =>
      rw [balancedFrom_count u _ _ side (by simp),
        Tracker.count_of_ne _ _ _ (by decide) (by decide)]
  | false => exact balancedFrom_skip u _ _ side (by simp)

theorem balancedFrom_nil (u : Tracker Bool) : BalancedFrom u [] := by
  cases side : u.inside with
  | true =>
      rw [balancedFrom_inside u _ side]
      intro body post found
      cases found
  | false =>
      rw [balancedFrom_outside u _ side, closed]
      simp

theorem balancedFrom_run (u : Tracker Bool) (texts : List (List Char)) (even : OutsideOrEven u)
    (kept : ∀ step ∈ u.run texts, OutsideOrEven step.2) :
    BalancedFrom u (List.intercalate ['\n'] texts) ↔ ∀ step ∈ u.run texts, step.1 = false := by
  induction texts generalizing u with
  | nil => simp [Tracker.run, balancedFrom_nil]
  | cons text rest ih =>
      have next := ih (u.scan text).2 (kept _ (by simp [Tracker.run]))
        fun step member => kept step (by simp [Tracker.run, member])
      rw [Tracker.run, List.forall_mem_cons, ← next]
      cases rest with
      | nil =>
          rw [List.intercalate_singleton, ← balancedFrom_scan u text _ even (by simp)]
          simp
      | cons second others =>
          rw [List.intercalate_cons_cons, List.append_assoc, List.singleton_append,
            balancedFrom_scan u text _ even (by simp), balancedFrom_newline]

open MismatchedQuotes in
/-- In a document where every scanned line ends outside an expression or at even counts, the tracker
passes all lines exactly when all closed expressions of the scanned text are balanced, however many
lines an expression spans and however many close on one line. -/
theorem passes_iff_all_balanced (content : String)
    (even : ∀ step ∈ (Tracker.fresh : Tracker UInt64).run (textsOf (scannableLines content)),
      OutsideOrEven step.2) :
    (∀ step ∈ (Tracker.fresh : Tracker UInt64).run (textsOf (scannableLines content)),
      step.1 = false) ↔
      ∀ expression ∈ closed (List.intercalate ['\n'] (textsOf (scannableLines content))),
        IsBalanced expression := by
  have bits :=
    Tracker.run_parity (Tracker.fresh : Tracker UInt64) (textsOf (scannableLines content))
  rw [Tracker.parity_fresh] at bits
  have kept : ∀ step ∈ (Tracker.fresh : Tracker Bool).run (textsOf (scannableLines content)),
      OutsideOrEven step.2 := by
    rw [bits]
    intro step member
    obtain ⟨wide, present, rfl⟩ := List.mem_map.mp member
    exact even wide present
  have whole := balancedFrom_run Tracker.fresh (textsOf (scannableLines content)) (.inl rfl) kept
  rw [balancedFrom_outside _ _ rfl, bits, List.forall_mem_map] at whole
  exact whole.symm

theorem passes_iff_all_balanced_on_two_lines :
    let content := "\x7b\x7b \"it's\"\n'b' \x7d\x7d \x7b\x7b 'c \x7d\x7d"
    let texts := MismatchedQuotes.textsOf (scannableLines content)
    (∀ step ∈ (Tracker.fresh : Tracker UInt64).run texts, OutsideOrEven step.2) ∧
      ((∀ step ∈ (Tracker.fresh : Tracker UInt64).run texts, step.1 = false) ↔
        ∀ expression ∈ closed (List.intercalate ['\n'] texts), IsBalanced expression) :=
  ⟨by decide +kernel, passes_iff_all_balanced _ (by decide +kernel)⟩

end QuoteLint.Expression
