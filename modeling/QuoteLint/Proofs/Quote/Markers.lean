import QuoteLint.Proofs.Quote.BrokenLine
import Mathlib.Logic.Function.Iterate

/-! What a line does to the tracker: on which side of the markers it ends, where the reader stops,
and how far the counts can rise. -/

namespace QuoteLint.Tracker

/-! ## Markers by their places -/

def IsMarkerAt (brace : Char) (text : List Char) (place : Nat) : Prop :=
  text[place]? = some brace ∧ text[place + 1]? = some brace

def HasMarkerAt (text : List Char) (place : Nat) : Prop :=
  IsMarkerAt '{' text place ∨ IsMarkerAt '}' text place

def IsLastMarker (text : List Char) (place : Nat) : Prop :=
  HasMarkerAt text place ∧ ∀ other, HasMarkerAt text other → other ≤ place

/-- The last marker is an open one, or there is no marker and the text was entered inside. -/
def EndsInside (entered : Bool) (text : List Char) : Prop :=
  (∃ place, IsLastMarker text place ∧ IsMarkerAt '{' text place) ∨
    ((∀ place, ¬ HasMarkerAt text place) ∧ entered = true)

section Places

variable (brace c : Char) (rest : List Char) (place : Nat)

theorem isMarkerAt_zero : IsMarkerAt brace (c :: rest) 0 ↔ c = brace ∧ rest.head? = some brace := by
  simp [IsMarkerAt, List.head?_eq_getElem?]

theorem isMarkerAt_succ :
    IsMarkerAt brace (c :: rest) (place + 1) ↔ IsMarkerAt brace rest place := by
  simp [IsMarkerAt]

theorem hasMarkerAt_succ : HasMarkerAt (c :: rest) (place + 1) ↔ HasMarkerAt rest place := by
  rw [HasMarkerAt, isMarkerAt_succ, isMarkerAt_succ, HasMarkerAt]

theorem isLastMarker_zero :
    IsLastMarker (c :: rest) 0 ↔ HasMarkerAt (c :: rest) 0 ∧ ∀ other, ¬ HasMarkerAt rest other := by
  apply and_congr_right
  intro _
  constructor
  · intro last other marker
    exact absurd (last (other + 1) ((hasMarkerAt_succ c rest other).mpr marker)) (by omega)
  · intro none other marker
    cases other with
    | zero => exact le_rfl
    | succ other => exact absurd ((hasMarkerAt_succ c rest other).mp marker) (none other)

theorem isLastMarker_succ : IsLastMarker (c :: rest) (place + 1) ↔ IsLastMarker rest place := by
  refine and_congr (hasMarkerAt_succ c rest place) ?_
  constructor
  · intro last other marker
    have bound := last (other + 1) ((hasMarkerAt_succ c rest other).mpr marker)
    omega
  · intro last other marker
    cases other with
    | zero => omega
    | succ other =>
        have bound := last other ((hasMarkerAt_succ c rest other).mp marker)
        omega

theorem endsInside_cons (entered : Bool) :
    EndsInside entered (c :: rest) ↔
      (∃ place, IsLastMarker rest place ∧ IsMarkerAt '{' rest place) ∨
        ((∀ place, ¬ HasMarkerAt rest place) ∧
          (IsMarkerAt '{' (c :: rest) 0 ∨ (¬ HasMarkerAt (c :: rest) 0 ∧ entered = true))) := by
  rw [EndsInside, ← Nat.or_exists_add_one, ← Nat.and_forall_add_one]
  simp only [isLastMarker_zero, isLastMarker_succ, isMarkerAt_succ, hasMarkerAt_succ]
  by_cases marker : HasMarkerAt (c :: rest) 0
  · simp only [marker, true_and, not_true_eq_false, false_and, or_false]
    exact or_comm
  · have other : ¬ IsMarkerAt '{' (c :: rest) 0 := fun opening => marker (.inl opening)
    simp only [marker, other, false_and, and_false, false_or, not_false_eq_true, true_and]

end Places

theorem not_hasMarkerAt_nil (place : Nat) : ¬ HasMarkerAt [] place := by
  simp [HasMarkerAt, IsMarkerAt]

theorem endsInside_nil (entered : Bool) : EndsInside entered [] ↔ entered = true := by
  simp [EndsInside, IsLastMarker, not_hasMarkerAt_nil]

theorem endsInside_closing (entered : Bool) (c : Char) (rest : List Char)
    (closing : c = '}' ∧ rest.head? = some '}') :
    EndsInside entered (c :: rest) ↔ EndsInside false rest := by
  have close : HasMarkerAt (c :: rest) 0 := .inr ((isMarkerAt_zero '}' c rest).mpr closing)
  have other : ¬ IsMarkerAt '{' (c :: rest) 0 := by simp [isMarkerAt_zero, closing.1]
  rw [endsInside_cons, EndsInside]
  simp [close, other]

theorem endsInside_opening (entered : Bool) (c : Char) (rest : List Char)
    (opening : c = '{' ∧ rest.head? = some '{') :
    EndsInside entered (c :: rest) ↔ EndsInside true rest := by
  have marker : IsMarkerAt '{' (c :: rest) 0 := (isMarkerAt_zero '{' c rest).mpr opening
  rw [endsInside_cons, EndsInside]
  simp [marker]

theorem endsInside_other (entered : Bool) (c : Char) (rest : List Char)
    (closing : ¬ (c = '}' ∧ rest.head? = some '}'))
    (opening : ¬ (c = '{' ∧ rest.head? = some '{')) :
    EndsInside entered (c :: rest) ↔ EndsInside entered rest := by
  rw [← isMarkerAt_zero] at closing opening
  rw [endsInside_cons, EndsInside]
  simp [HasMarkerAt, closing, opening]

section Reader

variable {κ : Type} [Tally κ] {start t : Tracker κ} {quoted : Bool} {text : List Char}
  {result : Bool × Tracker κ}

theorem Reading.inside_iff (reading : Reading start t quoted text result)
    (passed : result.1 = false) : result.2.inside = true ↔ EndsInside t.inside text := by
  induction reading with
  | done t quoted => exact (endsInside_nil t.inside).symm
  | stop => cases passed
  | leave t quoted c rest result closing even later ih =>
      exact (ih passed).trans (endsInside_closing t.inside c rest closing).symm
  | enter t quoted c rest result opening later ih =>
      exact (ih passed).trans (endsInside_opening t.inside c rest opening).symm
  | count t quoted c rest result inside closing later ih =>
      rw [ih passed, count_inside, inside]
      -- Inside an expression an open marker is read on as text, and leads to where the reader is.
      by_cases opening : c = '{' ∧ rest.head? = some '{'
      · exact (endsInside_opening true c rest opening).symm
      · exact (endsInside_other true c rest closing opening).symm
  | skip t quoted c rest result outside closing opening later ih =>
      exact (ih passed).trans (endsInside_other t.inside c rest closing opening).symm

theorem atLineStart_inside (t : Tracker κ) : t.atLineStart.inside = t.inside := by
  unfold atLineStart
  split
  · rfl
  · next outside => simpa [fresh] using outside

/-! ## How far the counts rise -/

def IsRaised (most : Nat) (before after : κ) : Prop :=
  ∃ times ≤ most, after = Tally.raise^[times] before

theorem IsRaised.refl (most : Nat) (count : κ) : IsRaised most count count :=
  ⟨0, Nat.zero_le most, rfl⟩

theorem IsRaised.mono {more most : Nat} {before after : κ} (raised : IsRaised most before after)
    (bound : most ≤ more) : IsRaised more before after := by
  rcases raised with ⟨times, few, rfl⟩
  exact ⟨times, Nat.le_trans few bound, rfl⟩

theorem IsRaised.raise {most : Nat} {before after : κ}
    (raised : IsRaised most (Tally.raise before) after) : IsRaised (most + 1) before after := by
  rcases raised with ⟨times, few, rfl⟩
  exact ⟨times + 1, Nat.succ_le_succ few, rfl⟩

/-- Between two states each count is raised at most once for each of its quotes in a text. -/
def CountsRise (text : List Char) (before after : Tracker κ) : Prop :=
  IsRaised (text.count '\'') before.singles after.singles ∧
    IsRaised (text.count '"') before.doubles after.doubles

theorem CountsRise.cons {rest : List Char} {before after : Tracker κ}
    (rise : CountsRise rest before after) (c : Char) : CountsRise (c :: rest) before after := by
  have longer (quote : Char) : rest.count quote ≤ (c :: rest).count quote :=
    (List.sublist_cons_self c rest).count_le quote
  exact ⟨rise.1.mono (longer '\''), rise.2.mono (longer '"')⟩

theorem CountsRise.count {rest : List Char} {t after : Tracker κ} {quoted : Bool} {c : Char}
    (rise : CountsRise rest (t.count quoted c).1 after) : CountsRise (c :: rest) t after := by
  by_cases double : c = '"'
  · subst double
    refine ⟨(rise.cons '"').1, ?_⟩
    rw [List.count_cons_self]
    exact rise.2.raise
  · by_cases single : c = '\'' ∧ quoted = false
    · rcases single with ⟨rfl, rfl⟩
      refine ⟨?_, (rise.cons '\'').2⟩
      rw [List.count_cons_self]
      exact rise.1.raise
    · have unchanged : t.count quoted c = (t, quoted) := by
        rw [Tracker.count, if_neg double, if_neg (by simpa using single)]
      rw [unchanged] at rise
      exact rise.cons c

theorem Reading.countsRise (reading : Reading start t quoted text result) :
    CountsRise text t result.2 := by
  induction reading with
  | done t quoted => exact ⟨.refl _ _, .refl _ _⟩
  | stop t quoted c rest closing turned => exact ⟨.refl _ _, .refl _ _⟩
  | leave t quoted c rest result closing even later ih => exact ih.cons c
  | enter t quoted c rest result opening later ih => exact ih.cons c
  | count t quoted c rest result inside closing later ih => exact ih.count
  | skip t quoted c rest result outside closing opening later ih => exact ih.cons c

end Reader

theorem IsRaised.toNat_le {most : Nat} {before after : UInt64}
    (raised : IsRaised most before after) : after.toNat ≤ before.toNat + most := by
  rcases raised with ⟨times, few, rfl⟩
  have gained : (Tally.raise^[times] before).toNat ≤ before.toNat + times := by
    induction times with
    | zero => exact le_rfl
    | succ times ih =>
        have wrapped : (Tally.raise (Tally.raise^[times] before)).toNat ≤
            (Tally.raise^[times] before).toNat + 1 := by
          change (Tally.raise^[times] before + 1).toNat ≤ _
          rw [UInt64.toNat_add]
          exact Nat.mod_le _ _
        have earlier := ih (by omega)
        rw [Function.iterate_succ_apply']
        omega
  omega

/-- A line that passes ends on the side of its last marker, or where it was entered if it has none.
A line that does not pass ends outside, at the first close marker where a count has turned odd, and
nothing behind that marker is read. Either way a count rises at most once for each of its quotes on
the line. -/
theorem scan_follows_markers (s : Tracker UInt64) (text : List Char) :
    ((s.scan text).1 = false → ((s.scan text).2.inside = true ↔ EndsInside s.inside text)) ∧
    ((s.scan text).1 = true →
      (s.scan text).2.inside = false ∧ ['}', '}'] <:+: text ∧
      (∀ back, s.scan (text ++ back) = s.scan text) ∧
      ∃ front back, text = front ++ '}' :: '}' :: back ∧ (s.scan (front ++ ['}'])).1 = false ∧
        ∀ other, s.scan (front ++ '}' :: '}' :: other) = s.scan text) ∧
    CountsRise text s.atLineStart (s.scan text).2 ∧
    (s.scan text).2.singles.toNat ≤ s.atLineStart.singles.toNat + text.count '\'' ∧
    (s.scan text).2.doubles.toNat ≤ s.atLineStart.doubles.toNat + text.count '"' := by
  have reading := reading_scanFrom s.atLineStart s.atLineStart false text
  have rise := reading.countsRise
  refine ⟨?_, ?_, rise, rise.1.toNat_le, rise.2.toNat_le⟩
  · intro passed
    have side := reading.inside_iff passed
    rwa [atLineStart_inside] at side
  · intro stopped
    have stop := scanFrom_stopped s.atLineStart s.atLineStart false text stopped
    refine ⟨(reading.closed_of_stopped stopped).1, ?_, ?_, stop⟩
    · rcases stop with ⟨front, back, whole, -, -⟩
      exact ⟨front, back, by simp [whole]⟩
    · intro back
      exact scanFrom_append_of_stopped _ _ _ _ _ stopped

theorem scan_follows_markers_at_wrap :
    let wide : Tracker UInt64 := ⟨true, 3, 0xFFFFFFFFFFFFFFFF⟩
    let passing := "a \x7d\x7d \x7b\x7b\x7b \"".toList
    let left : Tracker UInt64 := ⟨false, 1, 1⟩
    let stopping := "\x7b\x7b 'a \x7d\x7d \x7b\x7b \"".toList
    (wide.scan passing).1 = false ∧ (wide.scan passing).2.doubles = 0 ∧
      ((wide.scan passing).2.inside = true ↔ EndsInside true passing) ∧
      (left.scan stopping).1 = true ∧ (left.scan stopping).2.inside = false ∧
        ['}', '}'] <:+: stopping ∧
      ∀ back, left.scan (stopping ++ back) = left.scan stopping := by
  intro wide passing left stopping
  have passed : (wide.scan passing).1 = false := by decide
  have stopped : (left.scan stopping).1 = true := by decide
  rcases (scan_follows_markers left stopping).2.1 stopped with ⟨outside, close, unread, -⟩
  exact ⟨passed, by decide, (scan_follows_markers wide passing).1 passed, stopped, outside, close,
    unread⟩

end QuoteLint.Tracker
