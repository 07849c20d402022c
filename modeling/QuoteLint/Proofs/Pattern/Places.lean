import QuoteLint.Pattern
import Mathlib.Logic.Function.Iterate
import Mathlib.Data.Nat.Bitwise

/-! What a pattern means, and that laying it over a text finds this. A pattern leads from one place
of the text to another; the set of places that is pushed through its course is the image of this
relation. A repetition goes round only as often as the text has places: beyond that a way has a
round that takes nothing, which can be left out or gone again. -/

namespace QuoteLint

namespace Pattern

def Repeated (step : Nat → Nat → Prop) : Nat → Nat → Nat → Prop
  | 0, i, j => i = j
  | count + 1, i, k => ∃ j, step i j ∧ Repeated step count j k

def charBefore? (text : List Char) (i : Nat) : Option Char := if i = 0 then none else text[i - 1]?

/-- The part of the text between two places is as the pattern says. An upper bound below the lower
one asks for exactly so many rounds as the lower one. -/
def Leads (text : List Char) : Pattern → Nat → Nat → Prop
  | .empty, i, j => i = j
  | .one chars, i, j => ∃ c, text[i]? = some c ∧ chars.holds c.toNat = true ∧ j = i + 1
  | .edge condition, i, j =>
      i ≤ text.length ∧ condition.holds (charBefore? text i) text[i]? = true ∧ i = j
  | .seq first second, i, k => ∃ j, Leads text first i j ∧ Leads text second j k
  | .alt first second, i, j => Leads text first i j ∨ Leads text second i j
  | .times body least most, i, j =>
    ∃ count, least ≤ count ∧ (∀ top ∈ most, count ≤ max least top) ∧
      Repeated (Leads text body) count i j
  | .group body, i, j => Leads text body i j

theorem leads_seq (text : List Char) (first second : Pattern) (i k : Nat) :
    Leads text (.seq first second) i k ↔ ∃ j, Leads text first i j ∧ Leads text second j k :=
  Iff.rfl

/-! ## Sets of places as numbers -/

theorem testBit_double (places : Nat) (first : Bool) (i : Nat) :
    (2 * places + if first then 1 else 0).testBit i =
      if i = 0 then first else places.testBit (i - 1) := by
  have bit : (2 * places + if first then 1 else 0) = Nat.bit first places := by
    rw [Nat.bit_val]
    cases first <;> rfl
  rw [bit]
  cases i with
  | zero => simp
  | succ i => simp [Nat.testBit_bit_succ]

theorem testBit_placesBefore (chars : Text.CharSet) (text : List Char) (i : Nat) :
    (placesBefore chars text).testBit i = text[i]?.any fun c => chars.holds c.toNat := by
  induction text generalizing i with
  | nil => simp [placesBefore]
  | cons c rest ih =>
      rw [placesBefore, testBit_double]
      cases i with
      | zero => simp
      | succ i => simpa using ih i

theorem testBit_placesAt (edge : Edge) (before : Option Char) (text : List Char) (i : Nat) :
    (placesAt edge before text).testBit i =
      (decide (i ≤ text.length) &&
        edge.holds (if i = 0 then before else text[i - 1]?) text[i]?) := by
  induction text generalizing before i with
  | nil =>
      have here := testBit_double 0 (edge.holds before none) i
      simp only [Nat.mul_zero, Nat.zero_add] at here
      rw [placesAt, here]
      cases i with
      | zero => simp
      | succ i => simp
  | cons c rest ih =>
      rw [placesAt, testBit_double]
      cases i with
      | zero => simp
      | succ i =>
          rw [if_neg (by omega), Nat.add_sub_cancel, ih]
          cases i with
          | zero => simp
          | succ i => simp

def IsImage (advance : Nat → Nat) (step : Nat → Nat → Prop) : Prop :=
  ∀ places j, (advance places).testBit j = true ↔ ∃ i, places.testBit i = true ∧ step i j

theorem IsImage.comp {first second : Nat → Nat} {front back : Nat → Nat → Prop}
    (image : IsImage first front) (later : IsImage second back) :
    IsImage (fun places => second (first places)) fun i k => ∃ j, front i j ∧ back j k := by
  intro places k
  rw [later]
  constructor
  · intro reached
    rcases reached with ⟨j, between, after⟩
    rcases (image places j).mp between with ⟨i, present, before⟩
    exact ⟨i, present, j, before, after⟩
  · intro reached
    rcases reached with ⟨i, present, j, before, after⟩
    exact ⟨j, (image places j).mpr ⟨i, present, before⟩, after⟩

theorem iterate_eq (advance : Nat → Nat) (count places : Nat) :
    Course.iterate advance count places = advance^[count] places := by
  induction count generalizing places with
  | zero => rfl
  | succ count ih =>
      rw [Course.iterate, Function.iterate_succ_apply]
      split
      · next fixed => rw [fixed, Function.iterate_fixed fixed]
      · exact ih _

theorem IsImage.iterate {advance : Nat → Nat} {step : Nat → Nat → Prop}
    (image : IsImage advance step) (count : Nat) :
    IsImage (Course.iterate advance count) (Repeated step count) := by
  intro places j
  rw [iterate_eq]
  induction count generalizing places j with
  | zero => simp [Repeated]
  | succ count ih => exact image.comp ih places j

theorem repeated_add (step : Nat → Nat → Prop) (first second i k : Nat) :
    Repeated step (first + second) i k ↔
      ∃ j, Repeated step first i j ∧ Repeated step second j k := by
  induction first generalizing i with
  | zero => simp [Repeated]
  | succ first ih =>
      rw [Nat.add_right_comm]
      constructor
      · rintro ⟨x, one, rest⟩
        obtain ⟨j, front, back⟩ := (ih x).mp rest
        exact ⟨j, ⟨x, one, front⟩, back⟩
      · rintro ⟨j, ⟨x, one, front⟩, back⟩
        exact ⟨x, one, (ih x).mpr ⟨j, front, back⟩⟩

theorem repeated_or_stay (step : Nat → Nat → Prop) (count i j : Nat) :
    Repeated (fun i j => i = j ∨ step i j) count i j ↔
      ∃ fewer ≤ count, Repeated step fewer i j := by
  induction count generalizing i with
  | zero => simp [Repeated]
  | succ count ih =>
      constructor
      · rintro ⟨k, stays | steps, later⟩
        · obtain ⟨fewer, bound, path⟩ := (ih k).mp later
          exact ⟨fewer, by omega, stays ▸ path⟩
        · obtain ⟨fewer, bound, path⟩ := (ih k).mp later
          exact ⟨fewer + 1, by omega, k, steps, path⟩
      · rintro ⟨fewer, bound, path⟩
        cases fewer with
        | zero => exact ⟨i, .inl rfl, (ih i).mpr ⟨0, by omega, path⟩⟩
        | succ fewer =>
            obtain ⟨k, steps, later⟩ := path
            exact ⟨k, .inr steps, (ih k).mpr ⟨fewer, by omega, later⟩⟩

theorem IsImage.collect {advance : Nat → Nat} {step : Nat → Nat → Prop}
    (image : IsImage advance step) (rounds : Nat) :
    IsImage (Course.collect advance rounds) fun i j =>
      ∃ count ≤ rounds, Repeated step count i j := by
  have joined : IsImage (fun places => places ||| advance places) fun i j => i = j ∨ step i j := by
    intro places j
    rw [Nat.testBit_or, Bool.or_eq_true, image]
    constructor
    · rintro (present | ⟨i, present, steps⟩)
      · exact ⟨j, present, .inl rfl⟩
      · exact ⟨i, present, .inr steps⟩
    · rintro ⟨i, present, rfl | steps⟩
      · exact .inl present
      · exact .inr ⟨i, present, steps⟩
  intro places j
  rw [Course.collect, joined.iterate rounds places j]
  simp only [repeated_or_stay]

/-! ## Rounds that take nothing -/

def Advances (last : Nat) (step : Nat → Nat → Prop) : Prop :=
  ∀ i j, step i j → i ≤ j ∧ (i < j → j ≤ last)

theorem Advances.repeated {last : Nat} {step : Nat → Nat → Prop} (advances : Advances last step)
    (count : Nat) : Advances last (Repeated step count) := by
  induction count with
  | zero =>
      intro i j equal
      have same : i = j := equal
      omega
  | succ count ih =>
      rintro i k ⟨j, first, later⟩
      have front := advances i j first
      have back := ih j k later
      omega

theorem exists_idle_round {last : Nat} {step : Nat → Nat → Prop} (advances : Advances last step)
    (count i j : Nat) (path : Repeated step count i j) :
    i + count ≤ j ∨ ∃ front back x, front + back + 1 = count ∧
      Repeated step front i x ∧ step x x ∧ Repeated step back x j := by
  induction count generalizing i with
  | zero =>
      have same : i = j := path
      omega
  | succ count ih =>
      obtain ⟨k, first, later⟩ := path
      have forward := (advances i k first).1
      by_cases idle : i = k
      · subst idle
        exact .inr ⟨0, count, i, by omega, rfl, first, later⟩
      · rcases ih k later with long | ⟨front, back, x, total, before, loop, after⟩
        · left
          omega
        · exact .inr ⟨front + 1, back, x, by omega, ⟨k, first, before⟩, loop, after⟩

/-- With more rounds than places, one round more or less makes no difference. -/
theorem repeated_succ_iff {last : Nat} {step : Nat → Nat → Prop} (advances : Advances last step)
    (count i j : Nat) (many : last < count) :
    Repeated step (count + 1) i j ↔ Repeated step count i j := by
  have idle (rounds : Nat) (enough : last < rounds) (path : Repeated step rounds i j) :
      ∃ front back x, front + back + 1 = rounds ∧
        Repeated step front i x ∧ step x x ∧ Repeated step back x j := by
    have bound := advances.repeated rounds i j path
    rcases exists_idle_round advances rounds i j path with long | found
    · omega
    · exact found
  constructor
  · intro path
    obtain ⟨front, back, x, total, before, -, after⟩ := idle (count + 1) (by omega) path
    have shorter : count = front + back := by omega
    rw [shorter]
    exact (repeated_add step front back i j).mpr ⟨x, before, after⟩
  · intro path
    obtain ⟨front, back, x, total, before, loop, after⟩ := idle count many path
    have longer : count + 1 = front + (back + 1 + 1) := by omega
    rw [longer]
    exact (repeated_add step front _ i j).mpr ⟨x, before, x, loop, x, loop, after⟩

theorem repeated_of_many {last : Nat} {step : Nat → Nat → Prop} (advances : Advances last step)
    (count other i j : Nat) (many : last < count) (enough : last < other)
    (path : Repeated step count i j) : Repeated step other i j := by
  have least (rounds : Nat) (more : last + 1 ≤ rounds) :
      Repeated step rounds i j ↔ Repeated step (last + 1) i j := by
    induction rounds, more using Nat.le_induction with
    | base => rfl
    | succ rounds more ih => rw [repeated_succ_iff advances rounds i j (by omega), ih]
  exact (least other enough).mpr ((least count many).mp path)

theorem exists_rounds_iff {last : Nat} {step : Nat → Nat → Prop} (advances : Advances last step)
    (least : Nat) (most : Option Nat) (i j : Nat) :
    (∃ more ≤ min (most.elim (last + 1) (· - least)) (last + 1),
      Repeated step (min least (last + 1) + more) i j) ↔
    ∃ count, least ≤ count ∧ (∀ top ∈ most, count ≤ max least top) ∧ Repeated step count i j := by
  constructor
  · rintro ⟨more, bound, path⟩
    by_cases small : least ≤ last + 1
    · rw [Nat.min_eq_left small] at path
      refine ⟨least + more, by omega, ?_, path⟩
      intro top given
      subst given
      simp only [Option.elim_some] at bound
      omega
    · rw [Nat.min_eq_right (by omega)] at path
      refine ⟨least, le_rfl, fun top _ => by omega, ?_⟩
      exact repeated_of_many advances _ least i j (by omega) (by omega) path
  · rintro ⟨count, low, high, path⟩
    by_cases within : count - least ≤ min (most.elim (last + 1) (· - least)) (last + 1)
    · by_cases small : least ≤ last + 1
      · refine ⟨count - least, within, ?_⟩
        rw [Nat.min_eq_left small, Nat.add_sub_cancel' low]
        exact path
      · refine ⟨0, by omega, ?_⟩
        exact repeated_of_many advances count _ i j (by omega) (by omega) path
    · have cut : last + 1 < count - least := by
        cases most with
        | none =>
            simp only [Option.elim_none, Nat.min_self] at within
            omega
        | some top =>
            have bound := high top rfl
            simp only [Option.elim_some] at within
            omega
      have all : last + 1 ≤ min (most.elim (last + 1) (· - least)) (last + 1) := by
        cases most with
        | none => simp
        | some top =>
            have bound := high top rfl
            simp only [Option.elim_some]
            omega
      refine ⟨last + 1, all, ?_⟩
      exact repeated_of_many advances count _ i j (by omega) (by omega) path

/-! ## The course of a pattern -/

theorem leads_advances (text : List Char) (pattern : Pattern) :
    Advances text.length (Leads text pattern) := by
  induction pattern with
  | empty =>
      intro i j same
      have equal : i = j := same
      omega
  | one chars =>
      rintro i j ⟨c, found, -, rfl⟩
      obtain ⟨bound, -⟩ := List.getElem?_eq_some_iff.mp found
      omega
  | edge condition =>
      rintro i j ⟨-, -, rfl⟩
      omega
  | seq first second front back =>
      rintro i k ⟨j, one, other⟩
      have left := front i j one
      have right := back j k other
      omega
  | alt first second left right =>
      rintro i j (one | other)
      · exact left i j one
      · exact right i j other
  | times body least most ih =>
      rintro i j ⟨count, -, -, path⟩
      exact ih.repeated count i j path
  | group body ih => exact ih

theorem one_isImage (text : List Char) (chars : Text.CharSet) :
    IsImage (courseOn text (.one chars)).reach (Leads text (.one chars)) := by
  intro places j
  have shift := testBit_double (places &&& placesBefore chars text) false j
  simp only [Bool.false_eq_true, if_false, Nat.add_zero] at shift
  rw [courseOn, Course.reach, shift]
  cases j with
  | zero => simp [Leads]
  | succ j =>
      simp only [Nat.add_one_ne_zero, if_false, Nat.add_sub_cancel, Nat.testBit_and,
        Bool.and_eq_true, testBit_placesBefore, Option.any_eq_true, Leads, Nat.add_right_cancel_iff]
      constructor
      · intro reached
        rcases reached with ⟨present, c, found, held⟩
        exact ⟨j, present, c, found, held, rfl⟩
      · intro reached
        rcases reached with ⟨i, present, c, found, held, rfl⟩
        exact ⟨present, c, found, held⟩

theorem reach_isImage (text : List Char) (pattern : Pattern) :
    IsImage (courseOn text pattern).reach (Leads text pattern) := by
  induction pattern with
  | empty =>
      intro places j
      simp [courseOn, Course.reach, Leads]
  | one chars => exact one_isImage text chars
  | edge condition =>
      intro places j
      simp only [courseOn, Course.reach, Nat.testBit_and, testBit_placesAt, Bool.and_eq_true,
        decide_eq_true_eq, Leads]
      constructor
      · rintro ⟨present, bound, held⟩
        exact ⟨j, present, bound, held, rfl⟩
      · rintro ⟨i, present, bound, held, rfl⟩
        exact ⟨present, bound, held⟩
  | seq first second front back => exact front.comp back
  | alt first second left right =>
      intro places j
      rw [courseOn, Course.reach, Nat.testBit_or, Bool.or_eq_true, left, right, ← exists_or]
      simp only [← and_or_left, Leads]
  | times body least most ih =>
      intro places k
      have rounds := exists_rounds_iff (leads_advances text body) least most
      have image := (ih.iterate (min least (text.length + 1))).comp
        (ih.collect (min (most.elim (text.length + 1) (· - least)) (text.length + 1)))
      simp only [Leads, ← rounds, repeated_add]
      rw [courseOn, Course.reach, image]
      constructor
      · intro reached
        rcases reached with ⟨i, present, j, before, more, bound, after⟩
        exact ⟨i, present, more, bound, j, before, after⟩
      · intro reached
        rcases reached with ⟨i, present, more, bound, j, before, after⟩
        exact ⟨i, present, j, before, more, bound, after⟩
  | group body ih => exact ih

/-- A pattern occurs in a text exactly when it leads from some place of the text to another. -/
theorem occursIn_iff (pattern : Pattern) (text : List Char) :
    pattern.occursIn text = true ↔ ∃ i j, i ≤ text.length ∧ Leads text pattern i j := by
  have every (i : Nat) : (everyPlace text).testBit i = true ↔ i ≤ text.length := by
    have ones : (everyPlace text).testBit i = decide (i < text.length + 1) :=
      Nat.testBit_two_pow_sub_one _ i
    rw [ones, decide_eq_true_eq]
    omega
  rw [occursIn, bne_iff_ne]
  constructor
  · intro some
    obtain ⟨j, reached⟩ := Nat.exists_testBit_of_ne_zero some
    obtain ⟨i, present, leads⟩ := (reach_isImage text pattern _ j).mp reached
    exact ⟨i, j, (every i).mp present, leads⟩
  · rintro ⟨i, j, bound, leads⟩ none
    have reached := (reach_isImage text pattern _ j).mpr ⟨i, (every i).mpr bound, leads⟩
    rw [none, Nat.zero_testBit] at reached
    cases reached

end Pattern

end QuoteLint
