import QuoteLint.Proofs.Document.PassedOver

/-! Documents set one after the other. What is found in the first does not depend on what follows
it. The second is read as if it stood alone once no expression is left open: the counts that the
first leaves behind do not reach it. -/

namespace QuoteLint

theorem physicalLines_join (front back : String) :
    physicalLines (front ++ "\n" ++ back) = physicalLines front ++ physicalLines back := by
  have text : (front ++ "\n" ++ back).toList = front.toList ++ '\n' :: back.toList := by simp
  rw [physicalLines, text]
  exact List.splitOn_append_cons_self _ _

theorem scannableLines_join (front back : String) :
    scannableLines (front ++ "\n" ++ back) =
      scannableLines front ++
        (scannableLines back).map (Line.renumber (· + (physicalLines front).length)) := by
  have moved : lines (front ++ "\n" ++ back) =
      lines front ++ (lines back).map (Line.renumber (· + (physicalLines front).length)) := by
    rw [lines, physicalLines_join, numberFrom_append, numberFrom_add]
    rfl
  rw [scannableLines, moved, List.filter_append, List.filter_map]
  rfl

theorem Tracker.scan_of_outside {κ : Type} [Tally κ] (t : Tracker κ) (outside : t.inside = false)
    (text : List Char) : t.scan text = fresh.scan text := by
  have start : t.atLineStart = fresh := if_neg (by simp [outside])
  have again : (fresh : Tracker κ).atLineStart = fresh := if_neg (by simp [fresh])
  simp only [scan, start, again]

namespace MismatchedQuotes

theorem findFrom_of_outside {κ : Type} [Tally κ] (t : Tracker κ) (outside : t.inside = false)
    (lines : List Line) : findFrom t lines = findFrom (Tracker.fresh : Tracker κ) lines := by
  cases lines with
  | nil => rfl
  | cons line rest => simp only [findFrom, t.scan_of_outside outside]

theorem find_join (front back : String) :
    find (front ++ "\n" ++ back) =
      find front ++ (findFrom (carried (scannableLines front)) (scannableLines back)).map
        (Violation.renumber (· + (physicalLines front).length)) := by
  rw [find, scannableLines_join, findFrom_append, findFrom_renumber]
  rfl

/-- Of two documents joined by a newline, the first keeps its findings whatever the second is. If
the first ends outside an expression, the second has the findings it has alone, under numbers moved
on by the lines of the first, and no count left over matters. -/
theorem documents_compose (front back : String) :
    (find (front ++ "\n" ++ back)).filter (·.line ≤ (physicalLines front).length) = find front ∧
    ((carried (scannableLines front)).inside = false →
      find (front ++ "\n" ++ back) =
        find front ++ (find back).map (Violation.renumber (· + (physicalLines front).length))) := by
  constructor
  · have above : ∀ found ∈ find front,
      decide (found.line ≤ (physicalLines front).length) = true := by
      intro found member
      exact decide_eq_true (line_bounds_of_mem_findFrom _ front found member).2
    have below : ∀ found ∈ (findFrom (carried (scannableLines front)) (scannableLines back)).map
        (Violation.renumber (· + (physicalLines front).length)),
        ¬ decide (found.line ≤ (physicalLines front).length) = true := by
      intro found member
      obtain ⟨inner, present, rfl⟩ := List.mem_map.mp member
      have bounds := line_bounds_of_mem_findFrom _ back inner present
      rw [decide_eq_true_eq]
      change ¬ inner.line + (physicalLines front).length ≤ (physicalLines front).length
      omega
    rw [find_join, List.filter_append, List.filter_eq_self.mpr above,
      List.filter_eq_nil_iff.mpr below, List.append_nil]
  · intro outside
    rw [find_join, findFrom_of_outside _ outside]
    rfl

theorem documents_compose_after_odd_count :
    let front := "a: 1\n\x7b\x7b \"b \x7d\x7d"
    let back := "# c\n\x7b\x7b \"d \x7d\x7d"
    (carried (scannableLines front)).inside = false ∧ (carried (scannableLines front)).doubles = 1 ∧
      find (front ++ "\n" ++ back) =
        find front ++ (find back).map (Violation.renumber (· + 2)) := by
  intro front back
  have outside : (carried (scannableLines front)).inside = false := by decide +kernel
  have count : (physicalLines front).length = 2 := by decide +kernel
  have joined := (documents_compose front back).2 outside
  rw [count] at joined
  exact ⟨outside, by decide +kernel, joined⟩

end MismatchedQuotes

end QuoteLint
