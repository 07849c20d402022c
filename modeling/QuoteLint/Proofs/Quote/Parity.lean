import QuoteLint.Proofs.Quote.Run
import Mathlib.Data.List.Forall2

/-! The tracker uses a count through its parity alone. Forgetting everything else about the counts
commutes with reading a line, so a tracker of three bits follows every other one, and counting in
machine words gives the verdicts of counting without a bound. -/

namespace QuoteLint

/-- A counter that starts even and turns with every raise. -/
class LawfulTally (κ : Type) [Tally κ] : Prop where
  isOdd_zero : Tally.isOdd (Tally.zero : κ) = false
  isOdd_raise (count : κ) : Tally.isOdd (Tally.raise count) = !Tally.isOdd count

attribute [simp] LawfulTally.isOdd_zero LawfulTally.isOdd_raise

theorem word_isOdd (count : UInt64) : Tally.isOdd count = decide (count.toNat % 2 = 1) := by
  change (count % 2 == 1) = _
  rw [Bool.eq_iff_iff, beq_iff_eq, decide_eq_true_eq, ← UInt64.toNat_inj]
  simp

instance : LawfulTally UInt64 where
  isOdd_zero := by decide
  isOdd_raise count := by
    have wrapped : (Tally.raise count).toNat = (count.toNat + 1) % 2 ^ 64 :=
      UInt64.toNat_add count 1
    rw [word_isOdd, word_isOdd, wrapped, ← decide_not, decide_eq_decide]
    omega

instance : LawfulTally Nat where
  isOdd_zero := by decide
  isOdd_raise count := by
    change ((count + 1) % 2 == 1) = !(count % 2 == 1)
    rw [Bool.eq_iff_iff]
    simp only [beq_iff_eq, Bool.not_eq_true', beq_eq_false_iff_ne]
    omega

instance : LawfulTally Bool where
  isOdd_zero := rfl
  isOdd_raise _ := rfl

namespace Tracker

section Simulation

variable {κ : Type} [Tally κ]

def parity (t : Tracker κ) : Tracker Bool :=
  ⟨t.inside, Tally.isOdd t.singles, Tally.isOdd t.doubles⟩

@[simp] theorem parity_inside (t : Tracker κ) : t.parity.inside = t.inside := rfl

theorem leave_parity (t : Tracker κ) : t.parity.leave = t.leave.parity := rfl

theorem enter_parity (t : Tracker κ) : t.parity.enter = t.enter.parity := rfl

@[simp] theorem turnedOdd_parity (start now : Tracker κ) :
    turnedOdd start.parity now.parity = turnedOdd start now := rfl

variable [LawfulTally κ]

@[simp] theorem parity_fresh : (fresh : Tracker κ).parity = fresh := by
  simp only [parity, fresh, LawfulTally.isOdd_zero]
  rfl

theorem parity_atLineStart (t : Tracker κ) : t.parity.atLineStart = t.atLineStart.parity := by
  unfold atLineStart
  rw [parity_inside]
  split
  · rfl
  · rw [parity_fresh]

theorem count_parity (t : Tracker κ) (quoted : Bool) (c : Char) :
    count t.parity quoted c = ((count t quoted c).1.parity, (count t quoted c).2) := by
  unfold count
  split
  · simp only [parity, LawfulTally.isOdd_raise]
    rfl
  · split
    · simp only [parity, LawfulTally.isOdd_raise]
      rfl
    · rfl

theorem isOdd_count_doubles (t : Tracker κ) (quoted : Bool) (c : Char) :
    Tally.isOdd (count t quoted c).1.doubles = (decide (c = '"') ^^ Tally.isOdd t.doubles) := by
  unfold count
  split
  · next double => simp [double]
  · next other => split <;> simp [other]

theorem Reading.parity {start t : Tracker κ} {quoted : Bool} {text : List Char}
    {result : Bool × Tracker κ} (reading : Reading start t quoted text result) :
    scanFrom start.parity t.parity quoted text = (result.1, result.2.parity) := by
  induction reading with
  | done => rfl
  | stop t quoted c rest closing turned =>
      rw [scanFrom_closing _ _ _ _ _ closing, leave_parity, turnedOdd_parity, if_pos turned]
  | leave t quoted c rest result closing even later ih =>
      rw [scanFrom_closing _ _ _ _ _ closing, leave_parity, turnedOdd_parity,
        if_neg (by simp [even]), ih]
  | enter t quoted c rest result opening later ih =>
      rw [scanFrom_opening _ _ _ _ _ opening, enter_parity, ih]
  | count t quoted c rest result inside closing later ih =>
      rw [scanFrom_inside _ t.parity _ _ _ inside closing, count_parity, ih]
  | skip t quoted c rest result outside closing opening later ih =>
      rw [scanFrom_outside _ t.parity _ _ _ outside closing opening, ih]

theorem scan_parity (t : Tracker κ) (text : List Char) :
    t.parity.scan text = ((t.scan text).1, (t.scan text).2.parity) := by
  simp only [scan, parity_atLineStart]
  exact (reading_scanFrom t.atLineStart t.atLineStart false text).parity

theorem run_parity (t : Tracker κ) (texts : List (List Char)) :
    t.parity.run texts = (t.run texts).map fun step => (step.1, step.2.parity) := by
  induction texts generalizing t with
  | nil => rfl
  | cons text rest ih => simp only [run, scan_parity, ih, List.map_cons]

theorem verdicts_parity (t : Tracker κ) (texts : List (List Char)) :
    t.parity.verdicts texts = t.verdicts texts := by
  rw [verdicts, verdicts, run_parity, List.map_map]
  rfl

end Simulation

section TwoRuns

/-- Both counts equal modulo two. -/
def CountsAgree (s t : Tracker UInt64) : Prop :=
  s.singles % 2 = t.singles % 2 ∧ s.doubles % 2 = t.doubles % 2

theorem isOdd_eq_iff (a b : UInt64) : Tally.isOdd a = Tally.isOdd b ↔ a % 2 = b % 2 := by
  rw [word_isOdd, word_isOdd, decide_eq_decide, ← UInt64.toNat_inj]
  simp only [UInt64.toNat_mod, UInt64.reduceToNat]
  omega

theorem parity_eq_iff (s t : Tracker UInt64) :
    s.parity = t.parity ↔ s.inside = t.inside ∧ CountsAgree s t := by
  simp only [parity, Tracker.mk.injEq, isOdd_eq_iff, CountsAgree]

theorem atLineStart_parity_eq (s t : Tracker UInt64) (side : s.inside = t.inside)
    (agree : s.inside = true → CountsAgree s t) : s.atLineStart.parity = t.atLineStart.parity := by
  unfold atLineStart
  rw [← side]
  split
  · next entered => exact (parity_eq_iff s t).mpr ⟨side, agree entered⟩
  · rfl

theorem scan_parity_eq (s t : Tracker UInt64) (start : s.atLineStart.parity = t.atLineStart.parity)
    (text : List Char) :
    (s.scan text).1 = (t.scan text).1 ∧ (s.scan text).2.parity = (t.scan text).2.parity := by
  have same : s.parity.scan text = t.parity.scan text := by
    simp only [scan, parity_atLineStart, start]
  rw [scan_parity, scan_parity] at same
  exact Prod.mk.inj same

theorem run_agrees (s t : Tracker UInt64) (start : s.atLineStart.parity = t.atLineStart.parity)
    (texts : List (List Char)) :
    List.Forall₂ (fun a b => a.1 = b.1 ∧ a.2.inside = b.2.inside ∧ CountsAgree a.2 b.2)
      (s.run texts) (t.run texts) := by
  induction texts generalizing s t with
  | nil => exact .nil
  | cons text rest ih =>
      obtain ⟨verdict, next⟩ := scan_parity_eq s t start text
      refine .cons ⟨verdict, (parity_eq_iff _ _).mp next⟩ (ih _ _ ?_)
      rw [← parity_atLineStart, next, parity_atLineStart]

/-- Of a state the tracker reads the side of the markers and, inside an expression, the two
parities. So three bits follow every run, and machine words find in every document what unbounded
counts find. -/
theorem run_determined_by_parity :
    (∀ s t : Tracker UInt64, s.inside = t.inside → (s.inside = true → CountsAgree s t) →
      ∀ texts : List (List Char),
        List.Forall₂ (fun a b => a.1 = b.1 ∧ a.2.inside = b.2.inside ∧ CountsAgree a.2 b.2)
          (s.run texts) (t.run texts)) ∧
    (∀ (t : Tracker UInt64) (texts : List (List Char)),
      t.parity.run texts = (t.run texts).map fun step => (step.1, step.2.parity)) ∧
    (∀ texts : List (List Char),
      (fresh : Tracker UInt64).verdicts texts = (fresh : Tracker Nat).verdicts texts) ∧
    ∀ content : String, MismatchedQuotes.find content =
      MismatchedQuotes.findFrom (fresh : Tracker Nat) (scannableLines content) := by
  have unbounded (texts : List (List Char)) :
      (fresh : Tracker UInt64).verdicts texts = (fresh : Tracker Nat).verdicts texts := by
    rw [← verdicts_parity (fresh : Tracker UInt64), ← verdicts_parity (fresh : Tracker Nat),
      parity_fresh, parity_fresh]
  refine ⟨?_, run_parity, unbounded, ?_⟩
  · intro s t side agree texts
    exact run_agrees s t (atLineStart_parity_eq s t side agree) texts
  · intro content
    rw [MismatchedQuotes.find, MismatchedQuotes.findFrom_eq_reported,
      MismatchedQuotes.findFrom_eq_reported, unbounded]

theorem run_determined_by_parity_at_wrap :
    let wide : Tracker UInt64 := ⟨true, 0xFFFFFFFFFFFFFFFF, 4⟩
    let small : Tracker UInt64 := ⟨true, 1, 0⟩
    let texts := ["' \x7d\x7d \x7b\x7b '".toList, "\" \x7d\x7d".toList]
    wide.inside = small.inside ∧ CountsAgree wide small ∧
      List.Forall₂ (fun a b => a.1 = b.1 ∧ a.2.inside = b.2.inside ∧ CountsAgree a.2 b.2)
        (wide.run texts) (small.run texts) := by
  intro wide small texts
  have agree : CountsAgree wide small := ⟨by decide, by decide⟩
  exact ⟨rfl, agree, run_determined_by_parity.1 wide small rfl (fun _ => agree) texts⟩

end TwoRuns

end Tracker

end QuoteLint
