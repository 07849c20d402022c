import QuoteLint.Text.CharSet

/-! What sets of characters hold. The ranges of a set may come in any order: they are sorted and
joined without a change to what the set holds, and after that the gaps between them are the
complement. -/

namespace QuoteLint.Text.CharSet

theorem span_holds (first last code : Nat) :
    (span first last).holds code = true ↔ first ≤ code ∧ code ≤ last := by
  simp [span, holds]

theorem single_holds (d c : Char) : (single d).holds c.toNat = true ↔ c = d := by
  rw [single, span_holds, ← Char.toNat_inj]
  omega

/-- Ranges in ascending order, from a code point on. -/
def IsAscending (start : Nat) : List (Nat × Nat) → Prop
  | [] => True
  | (first, last) :: rest => start ≤ first ∧ first ≤ last ∧ IsAscending (last + 1) rest

theorem not_holds_below (start code : Nat) (ranges : List (Nat × Nat))
    (ascending : IsAscending start ranges) (below : code < start) :
    holds ⟨ranges⟩ code = false := by
  induction ranges generalizing start with
  | nil => rfl
  | cons range rest ih =>
      obtain ⟨low, order, later⟩ := ascending
      have outside : ¬ range.1 ≤ code := by omega
      have tail := ih (range.2 + 1) later (by omega)
      simpa [holds, outside] using tail

theorem gaps_not_below (start code : Nat) (ranges : List (Nat × Nat))
    (ascending : IsAscending start ranges) (below : code < start) :
    holds ⟨gaps start ranges⟩ code = false := by
  induction ranges generalizing start with
  | nil =>
      rw [gaps]
      split
      · have outside : ¬ start ≤ code := by omega
        simp [holds, outside]
      · rfl
  | cons range rest ih =>
      obtain ⟨low, order, later⟩ := ascending
      have tail := ih (range.2 + 1) later (by omega)
      rw [gaps]
      split
      · have outside : ¬ start ≤ code := by omega
        simpa [holds, outside] using tail
      · exact tail

theorem gaps_holds (start code : Nat) (ranges : List (Nat × Nat))
    (ascending : IsAscending start ranges) (low : start ≤ code) (high : code ≤ maxCode) :
    holds ⟨gaps start ranges⟩ code = !holds ⟨ranges⟩ code := by
  induction ranges generalizing start with
  | nil =>
      rw [gaps, if_pos (by omega)]
      simp [holds, low, high]
  | cons range rest ih =>
      obtain ⟨first, order, later⟩ := ascending
      have here : holds ⟨range :: rest⟩ code =
          (decide (range.1 ≤ code ∧ code ≤ range.2) || holds ⟨rest⟩ code) := by
        simp [holds]
      have split : holds ⟨gaps start (range :: rest)⟩ code =
          (decide (code < range.1) || holds ⟨gaps (range.2 + 1) rest⟩ code) := by
        rw [gaps]
        split
        · have edge : (start ≤ code ∧ code ≤ range.1 - 1) ↔ code < range.1 := by omega
          simp [holds, ← edge]
        · have past : ¬ code < range.1 := by omega
          simp [past]
      rw [here, split]
      rcases Nat.lt_or_ge range.2 code with past | within
      · have outside : ¬ code < range.1 ∧ ¬ (range.1 ≤ code ∧ code ≤ range.2) := by omega
        rw [ih (range.2 + 1) later past]
        simp [outside]
      · have gap := gaps_not_below (range.2 + 1) code rest later (by omega)
        have free := not_holds_below (range.2 + 1) code rest later (by omega)
        rw [gap, free]
        rcases Nat.lt_or_ge code range.1 with before | inside
        · simp [before]
        · simp [inside, within]

/-! ## Joining ranges -/

theorem coalesce_holds (first last code : Nat) (ranges : List (Nat × Nat))
    (sorted : ((first, last) :: ranges).Pairwise fun a b => a.1 ≤ b.1) :
    holds ⟨coalesce first last ranges⟩ code = holds ⟨(first, last) :: ranges⟩ code := by
  fun_induction coalesce first last ranges with
  | case1 first last => rfl
  | case2 first last next stop rest touches ih =>
      rw [List.pairwise_cons, List.pairwise_cons] at sorted
      have low : first ≤ next := sorted.1 (next, stop) List.mem_cons_self
      have later : ((first, max last stop) :: rest).Pairwise fun a b => a.1 ≤ b.1 :=
        List.pairwise_cons.mpr ⟨fun range member => sorted.1 range (List.mem_cons_of_mem _ member),
          sorted.2.2⟩
      have joined : (first ≤ code ∧ code ≤ max last stop) ↔
          (first ≤ code ∧ code ≤ last) ∨ (next ≤ code ∧ code ≤ stop) := by omega
      rw [ih later, Bool.eq_iff_iff]
      simp only [holds, List.any_cons, Bool.or_eq_true, Bool.and_eq_true, decide_eq_true_eq, joined,
        or_assoc]
  | case3 first last next stop rest apart ih =>
      have tail := ih (List.pairwise_cons.mp sorted).2
      simp only [holds, List.any_cons] at tail ⊢
      rw [tail]

theorem coalesce_ascending (start first last : Nat) (ranges : List (Nat × Nat))
    (low : start ≤ first) (proper : ∀ range ∈ (first, last) :: ranges, range.1 ≤ range.2) :
    IsAscending start (coalesce first last ranges) := by
  fun_induction coalesce first last ranges generalizing start with
  | case1 first last => exact ⟨low, proper _ List.mem_cons_self, trivial⟩
  | case2 first last next stop rest touches ih =>
      apply ih start low
      intro range member
      rcases List.mem_cons.mp member with rfl | later
      · have order : first ≤ last := proper _ List.mem_cons_self
        exact Nat.le_trans order (Nat.le_max_left last stop)
      · exact proper range (List.mem_cons_of_mem _ (List.mem_cons_of_mem _ later))
  | case3 first last next stop rest apart ih =>
      refine ⟨low, proper _ List.mem_cons_self, ih (last + 1) (by omega) ?_⟩
      intro range member
      exact proper range (List.mem_cons_of_mem _ member)

theorem ofRanges_holds (ranges : List (Nat × Nat)) (code : Nat) :
    (ofRanges ranges).holds code = holds ⟨ranges⟩ code := by
  have sorted : (ranges.mergeSort fun a b => decide (a.1 ≤ b.1)).Pairwise fun a b =>
      decide (a.1 ≤ b.1) = true :=
    List.pairwise_mergeSort (fun a b c => by simpa using Nat.le_trans)
      (fun a b => by simpa using Nat.le_total a.1 b.1) ranges
  have same : holds ⟨ranges.mergeSort fun a b => decide (a.1 ≤ b.1)⟩ code = holds ⟨ranges⟩ code :=
    (List.mergeSort_perm ranges _).any_eq
  rw [ofRanges, ← same]
  split
  · next empty => rw [empty]; rfl
  · next first last rest found =>
      rw [found] at sorted ⊢
      exact coalesce_holds first last code rest (by simpa using sorted)

theorem ofRanges_ascending (ranges : List (Nat × Nat))
    (proper : ∀ range ∈ ranges, range.1 ≤ range.2) : IsAscending 0 (ofRanges ranges).ranges := by
  rw [ofRanges]
  split
  · trivial
  · next first last rest found =>
      apply coalesce_ascending 0 first last rest (Nat.zero_le first)
      intro range member
      rw [← found] at member
      exact proper range (List.mem_mergeSort.mp member)

theorem unionAll_holds (sets : List CharSet) (code : Nat) :
    (unionAll sets).holds code = sets.any (·.holds code) := by
  rw [unionAll, ofRanges_holds, holds, List.any_flatMap]
  rfl

theorem complement_holds (set : CharSet) (ascending : IsAscending 0 set.ranges) (c : Char) :
    set.complement.holds c.toNat = !set.holds c.toNat := by
  have valid : c.toNat.isValidChar := c.valid
  have bound : c.toNat ≤ maxCode := by
    simp only [Nat.isValidChar] at valid
    simp only [maxCode]
    omega
  exact gaps_holds 0 c.toNat set.ranges ascending (Nat.zero_le _) bound

def allBut (chars : List Char) : CharSet := (unionAll (chars.map single)).complement

theorem allBut_holds (chars : List Char) (c : Char) :
    (allBut chars).holds c.toNat = true ↔ c ∉ chars := by
  have proper : ∀ range ∈ (chars.map single).flatMap ranges, range.1 ≤ range.2 := by
    intro range member
    simp only [single, span, List.flatMap_map, List.mem_flatMap, List.mem_singleton] at member
    rcases member with ⟨d, -, rfl⟩
    exact Nat.le_refl _
  rw [allBut, complement_holds (unionAll _) (ofRanges_ascending _ proper), unionAll_holds,
    Bool.not_eq_true', ← Bool.not_eq_true, List.any_map]
  simp only [List.any_eq_true, Function.comp_apply, single_holds]
  simp

end QuoteLint.Text.CharSet
