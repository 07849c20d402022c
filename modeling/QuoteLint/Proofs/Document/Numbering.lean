import QuoteLint.Line

/-! The lines of a document and their numbers. -/

namespace QuoteLint

theorem length_physicalLines (content : String) :
    (physicalLines content).length = content.toList.count '\n' + 1 := by
  rw [physicalLines]
  induction content.toList with
  | nil => rfl
  | cons c rest ih =>
      rw [List.splitOn_cons_eq_if_modifyHead, List.count_cons]
      by_cases newline : (c == '\n') = true
      · rw [if_pos newline, if_pos newline, List.length_cons, ih]
      · rw [if_neg newline, if_neg newline, List.length_modifyHead, ih]

theorem newline_not_mem_physicalLines (content : String) (raw : List Char)
    (member : raw ∈ physicalLines content) : '\n' ∉ raw := by
  rw [physicalLines] at member
  generalize content.toList = cs at member
  induction cs generalizing raw with
  | nil =>
      rw [List.mem_singleton.mp member]
      exact List.not_mem_nil
  | cons c rest ih =>
      rw [List.splitOn_cons_eq_if_modifyHead] at member
      split at member
      · rcases List.mem_cons.mp member with rfl | later
        · exact List.not_mem_nil
        · exact ih raw later
      · next other =>
          cases rows : rest.splitOn '\n' with
          | nil => exact absurd rows (List.splitOn_ne_nil _ _)
          | cons first others =>
              rw [rows] at ih member
              rcases List.mem_cons.mp member with rfl | later
              · have differ : '\n' ≠ c := fun same => other (beq_iff_eq.mpr same.symm)
                simpa [differ] using ih first List.mem_cons_self
              · exact ih raw (List.mem_cons_of_mem first later)

theorem numberFrom_append (number : Nat) (front back : List (List Char)) :
    numberFrom number (front ++ back) =
      numberFrom number front ++ numberFrom (number + front.length) back := by
  induction front generalizing number with
  | nil => rfl
  | cons raw rest ih =>
      have shifted : number + 1 + rest.length = number + (rest.length + 1) := by omega
      rw [List.cons_append, numberFrom, ih, shifted]
      rfl

theorem number_bounds (number : Nat) (rows : List (List Char)) (line : Line)
    (member : line ∈ numberFrom number rows) :
    number ≤ line.number ∧ line.number < number + rows.length := by
  induction rows generalizing number with
  | nil => cases member
  | cons raw rest ih =>
      rw [List.length_cons]
      rcases List.mem_cons.mp member with rfl | later
      · change number ≤ number ∧ number < number + (rest.length + 1)
        omega
      · have bounds := ih (number + 1) later
        omega

theorem numberFrom_increasing (number : Nat) (rows : List (List Char)) :
    (numberFrom number rows).Pairwise fun earlier later => earlier.number < later.number := by
  induction rows generalizing number with
  | nil => exact .nil
  | cons raw rest ih =>
      refine .cons ?_ (ih (number + 1))
      intro later member
      exact (number_bounds (number + 1) rest later member).1

theorem getElem?_numberFrom (number : Nat) (rows : List (List Char)) (index : Nat) :
    (numberFrom number rows)[index]? = rows[index]?.map (Line.ofRaw (number + index)) := by
  induction rows generalizing number index with
  | nil => rfl
  | cons raw rest ih =>
      cases index with
      | zero => rfl
      | succ index =>
          have next : number + (index + 1) = number + 1 + index := by omega
          rw [numberFrom, List.getElem?_cons_succ, List.getElem?_cons_succ, ih, next]

theorem number_bounds_of_mem_scannableLines (content : String) (line : Line)
    (member : line ∈ scannableLines content) :
    1 ≤ line.number ∧ line.number ≤ (physicalLines content).length := by
  have bounds := number_bounds 1 (physicalLines content) line (List.mem_filter.mp member).1
  omega

theorem exists_row_of_mem_scannableLines (content : String) (line : Line)
    (member : line ∈ scannableLines content) :
    ∃ index raw, (physicalLines content)[index]? = some raw ∧ line = Line.ofRaw (index + 1) raw ∧
      line.isSkipped = false := by
  rcases List.mem_filter.mp member with ⟨listed, kept⟩
  rcases List.mem_iff_getElem?.mp listed with ⟨index, place⟩
  rw [lines, getElem?_numberFrom, Nat.add_comm] at place
  rcases Option.map_eq_some_iff.mp place with ⟨raw, row, same⟩
  exact ⟨index, raw, row, same.symm, by simpa using kept⟩

theorem scannableLines_increasing (content : String) :
    (scannableLines content).Pairwise fun earlier later => earlier.number < later.number :=
  (numberFrom_increasing 1 (physicalLines content)).filter _

end QuoteLint
