import QuoteLint.Pattern.Reader

/-! Reading a pattern sign by sign. What each sign adds to the parts of a branch is an equation, so
that the text of a pattern is read by rewriting from left to right. The flags are those at the start
of a pattern. -/

namespace QuoteLint.Pattern

section Signs

-- The equations are closed by a tactic and not by a term: `simp` then keeps each step as a
-- rewriting, and the reader is not run a second time over a whole text when the proof is checked.
variable (fuel : Nat) (rest : List Char) (names : List (List Char)) (parts branches : List Part)

theorem branches?_nil :
    branches? (fuel + 1) ⟨[], .start, names⟩ parts branches =
      some (joinBranches (joinParts parts :: branches), ⟨[], .start, names⟩) := by rfl

theorem branches?_close :
    branches? (fuel + 1) ⟨')' :: rest, .start, names⟩ parts branches =
      some (joinBranches (joinParts parts :: branches), ⟨')' :: rest, .start, names⟩) := by rfl

theorem branches?_bar :
    branches? (fuel + 1) ⟨'|' :: rest, .start, names⟩ parts branches =
      branches? fuel ⟨rest, .start, names⟩ [] (joinParts parts :: branches) := by rfl

theorem branches?_textStart :
    branches? (fuel + 1) ⟨'^' :: rest, .start, names⟩ parts branches =
      branches? fuel ⟨rest, .start, names⟩ (⟨.edge .textStart, 0, false⟩ :: parts) branches := by
  rfl

theorem branches?_textEnd :
    branches? (fuel + 1) ⟨'$' :: rest, .start, names⟩ parts branches =
      branches? fuel ⟨rest, .start, names⟩ (⟨.edge .textEnd, 0, false⟩ :: parts) branches := by rfl

theorem branches?_dot :
    branches? (fuel + 1) ⟨'.' :: rest, .start, names⟩ parts branches =
      branches? fuel ⟨rest, .start, names⟩
        (⟨.one (Text.CharSet.single '\n').complement, 0, false⟩ :: parts) branches := by rfl

theorem branches?_backslash :
    branches? (fuel + 1) ⟨'\\' :: '\\' :: rest, .start, names⟩ parts branches =
      branches? fuel ⟨rest, .start, names⟩ (⟨.one (.single '\\'), 0, false⟩ :: parts) branches := by
  rfl

def signs : List Char := [')', '|', '(', '[', '?', '*', '+', '{', '.', '^', '$', '\\']

theorem branches?_char (c : Char) (plain : c ∉ signs) :
    branches? (fuel + 1) ⟨c :: rest, .start, names⟩ parts branches =
      branches? fuel ⟨rest, .start, names⟩ (⟨.one (.single c), 0, false⟩ :: parts) branches := by
  simp only [signs, List.mem_cons, not_or] at plain
  rw [branches?]
  simp only [Flags.skip, Flags.start, if_false, Bool.false_eq_true]
  split
  all_goals simp_all
  rfl

theorem branches?_star (c : Char) (greedy : c ≠ '?') (pattern : Pattern) (depth : Nat) :
    branches? (fuel + 1) ⟨'*' :: c :: rest, .start, names⟩
        (⟨pattern, depth, false⟩ :: parts) branches =
      branches? fuel ⟨c :: rest, .start, names⟩
        (⟨.times pattern 0 none, depth + 1, false⟩ :: parts) branches := by
  have all : dropLazy (c :: rest) = c :: rest := by simp [dropLazy, greedy]
  calc
    _ = branches? fuel ⟨dropLazy (c :: rest), .start, names⟩
        (⟨.times pattern 0 none, depth + 1, false⟩ :: parts) branches := rfl
    _ = _ := by rw [all]

theorem branches?_open :
    branches? (fuel + 1) ⟨'(' :: rest, .start, names⟩ parts branches =
      (group? fuel ⟨rest, .start, names⟩).bind fun (part, reading) =>
        branches? fuel reading (part :: parts) branches := by rfl

theorem group?_plain (c : Char) (unmarked : c ≠ '?') :
    group? (fuel + 1) ⟨c :: rest, .start, names⟩ =
      body? fuel ⟨c :: rest, .start, names⟩ .start true := by
  have ahead : isLookAround (c :: rest) = false := by
    simp [isLookAround, List.isPrefixOf, Ne.symm unmarked]
  rw [group?, ahead]
  simp [unmarked]

theorem group?_unremembered :
    group? (fuel + 1) ⟨'?' :: ':' :: rest, .start, names⟩ =
      body? fuel ⟨rest, .start, names⟩ .start false := by rfl

theorem body?_eq (reading : Reading) (remembered : Bool) :
    body? (fuel + 1) reading .start remembered =
      (branches? fuel reading [] []).bind fun (part, reading) =>
        match reading.rest with
        | ')' :: rest =>
          some (⟨if remembered then .group part.pattern else part.pattern, part.depth + 1, false⟩,
            ⟨rest, .start, reading.names⟩)
        | _ => none := by rfl

end Signs

theorem read?_of_branches? (text : List Char) (part : Part) (flags : Flags)
    (names : List (List Char))
    (read : branches? (3 * text.length + 3) ⟨text, .start, []⟩ [] [] =
      some (part, ⟨[], flags, names⟩))
    (shallow : part.depth ≤ maxDepth) (small : part.pattern.isTooLarge = false) :
    read? text = some part.pattern := by
  simp [read?, read, shallow, small]

end QuoteLint.Pattern
