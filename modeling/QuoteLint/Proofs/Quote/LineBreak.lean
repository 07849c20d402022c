import QuoteLint.Proofs.Quote.Verdict

/-! Breaking a line in two where the quotes are balanced. The second part begins with counts of its
own, with another state to compare them with and without the flag for an open double quote; at such
a point all three say what they said in the unbroken line. -/

namespace QuoteLint.Tracker

open Expression

/-- No marker is made of the last character of one text and the first of the next. -/
def CanBreak (front back : List Char) : Prop := AreApart '{' front back ∧ AreApart '}' front back

instance (front back : List Char) : Decidable (CanBreak front back) :=
  inferInstanceAs (Decidable (_ ∧ _))

theorem CanBreak.of_cons {c : Char} {rest back : List Char} (apart : CanBreak (c :: rest) back) :
    CanBreak rest back :=
  ⟨AreApart.of_append [c] apart.1, AreApart.of_append [c] apart.2⟩

theorem Reading.append {start u : Tracker Bool} {quoted : Bool} {front : List Char}
    {result : Bool × Tracker Bool} (reading : Reading start u quoted front result)
    (back : List Char) (apart : CanBreak front back) (passed : result.1 = false)
    (flag : quoted = u.doubles) :
    scanFrom start u quoted (front ++ back) = scanFrom start result.2 result.2.doubles back := by
  induction reading with
  | done u quoted => rw [List.nil_append, flag]
  | stop => cases passed
  | leave u quoted c rest result closing even later ih =>
      have next := ih apart.of_cons passed flag
      rw [List.cons_append, scanFrom_closing _ _ _ _ _ (apart.2.marker_iff.mpr closing),
        if_neg (by simp [even]),
        next]
  | enter u quoted c rest result opening later ih =>
      have next := ih apart.of_cons passed flag
      rw [List.cons_append, scanFrom_opening _ _ _ _ _ (apart.1.marker_iff.mpr opening), next]
  | count u quoted c rest result inside closing later ih =>
      subst flag
      have next := ih apart.of_cons passed (count_quoted u c)
      rw [List.cons_append, scanFrom_inside _ _ _ _ _ inside (by rwa [apart.2.marker_iff]), next]
  | skip u quoted c rest result outside closing opening later ih =>
      have next := ih apart.of_cons passed flag
      rw [List.cons_append, scanFrom_outside _ _ _ _ _ outside (by rwa [apart.2.marker_iff])
        (by rwa [apart.1.marker_iff]), next]

theorem even_of_passed (u : Tracker Bool) (text : List Char) (even : OutsideOrEven u)
    (passed : (u.scan text).1 = false) (kept : OutsideOrEven (u.scan text).2) :
    (u.scan text).2.singles = false ∧ (u.scan text).2.doubles = false := by
  rcases kept with outside | clean
  · have reading := reading_scanFrom u.atLineStart u.atLineStart false text
    have quiet := reading.settled (fun _ => turnedOdd_self _) passed outside
    rw [turnedOdd_of_even _ _ (even_atLineStart u even), Bool.or_eq_false_iff] at quiet
    exact quiet
  · exact clean

theorem scan_of_even (u : Tracker Bool) (text : List Char)
    (even : u.singles = false ∧ u.doubles = false) : u.scan text = scanFrom u u false text := by
  have unchanged : u.atLineStart = u := by
    obtain ⟨inside, singles, doubles⟩ := u
    obtain ⟨rfl, rfl⟩ := even
    cases inside <;> rfl
  rw [scan, unchanged]

theorem scan_append (u : Tracker Bool) (front back : List Char) (even : OutsideOrEven u)
    (apart : CanBreak front back) (passed : (u.scan front).1 = false)
    (kept : OutsideOrEven (u.scan front).2) :
    u.scan (front ++ back) = (u.scan front).2.scan back := by
  have start := even_atLineStart u even
  have middle := even_of_passed u front even passed kept
  have reading := reading_scanFrom u.atLineStart u.atLineStart false front
  calc
    u.scan (front ++ back) =
      scanFrom u.atLineStart (u.scan front).2 (u.scan front).2.doubles back :=
      reading.append back apart passed start.2.symm
    _ = scanFrom u.atLineStart (u.scan front).2 false back := by rw [middle.2]
    _ = scanFrom (u.scan front).2 (u.scan front).2 false back := by
      apply scanFrom_start
      · exact start.1.trans middle.1.symm
      · exact start.2.trans middle.2.symm
    _ = (u.scan front).2.scan back := (scan_of_even _ back middle).symm

/-- A line break at a point where the quotes are balanced makes no difference: what is read after it
gets the same verdict, and leaves the same side of the markers and the same parities. -/
theorem line_break_at_balanced_point (s : Tracker UInt64) (front back : List Char)
    (even : OutsideOrEven s) (apart : CanBreak front back) (passed : (s.scan front).1 = false)
    (kept : OutsideOrEven (s.scan front).2) :
    (s.scan (front ++ back)).1 = ((s.scan front).2.scan back).1 ∧
      (s.scan (front ++ back)).2.inside = ((s.scan front).2.scan back).2.inside ∧
      CountsAgree (s.scan (front ++ back)).2 ((s.scan front).2.scan back).2 := by
  have first : s.parity.scan front = ((s.scan front).1, (s.scan front).2.parity) :=
    scan_parity s front
  have joined : s.parity.scan (front ++ back) = (s.parity.scan front).2.scan back := by
    apply scan_append s.parity front back even apart
    · rw [first]
      exact passed
    · rw [first]
      exact kept
  rw [first, scan_parity, scan_parity] at joined
  obtain ⟨verdict, bits⟩ := Prod.mk.inj joined
  exact ⟨verdict, (parity_eq_iff _ _).mp bits⟩

theorem line_break_at_balanced_point_within_expression :
    let start : Tracker UInt64 := ⟨true, 2, 4⟩
    let front := "'a' \x7d\x7d \x7b\x7b \"it's\" \x7b".toList
    let back := " 'b \x7d\x7d".toList
    OutsideOrEven start ∧ CanBreak front back ∧ (start.scan front).2.inside = true ∧
      (start.scan (front ++ back)).1 = ((start.scan front).2.scan back).1 ∧
      (start.scan (front ++ back)).2.inside = ((start.scan front).2.scan back).2.inside ∧
      CountsAgree (start.scan (front ++ back)).2 ((start.scan front).2.scan back).2 := by
  intro start front back
  have even : OutsideOrEven start := by decide
  have apart : CanBreak front back := by decide
  exact ⟨even, apart, by decide,
    line_break_at_balanced_point start front back even apart (by decide) (by decide)⟩

end QuoteLint.Tracker
