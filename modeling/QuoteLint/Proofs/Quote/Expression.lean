import QuoteLint.Proofs.Quote.Run
import Mathlib.Algebra.Ring.Parity

/-! The expressions of a text, cut out by their markers, and when the quotes of one are balanced.
Nothing here knows of lines, of counts carried along or of where a reader stops. -/

namespace QuoteLint.Expression

def close? : List Char → Option (List Char × List Char)
  | [] => none
  | c :: rest =>
    if c = '}' ∧ rest.head? = some '}' then some ([], rest.tail)
    else (close? rest).map fun cut => (c :: cut.1, cut.2)

theorem close?_marker (c : Char) (rest : List Char) (closing : c = '}' ∧ rest.head? = some '}') :
    close? (c :: rest) = some ([], rest.tail) := by
  rw [close?, if_pos closing]

theorem close?_other (c : Char) (rest : List Char) (closing : ¬ (c = '}' ∧ rest.head? = some '}')) :
    close? (c :: rest) = (close? rest).map fun cut => (c :: cut.1, cut.2) := by
  rw [close?, if_neg closing]

theorem close?_other_iff (c : Char) (rest body post : List Char)
    (closing : ¬ (c = '}' ∧ rest.head? = some '}')) :
    close? (c :: rest) = some (body, post) ↔
      ∃ inner, close? rest = some (inner, post) ∧ body = c :: inner := by
  rw [close?_other c rest closing, Option.map_eq_some_iff]
  constructor
  · rintro ⟨⟨inner, after⟩, found, equal⟩
    obtain ⟨rfl, rfl⟩ := Prod.mk.inj equal
    exact ⟨inner, found, rfl⟩
  · rintro ⟨inner, found, rfl⟩
    exact ⟨(inner, post), found, rfl⟩

theorem marker_infix_cons (c : Char) (inner post : List Char) :
    ['}', '}'] <:+: c :: (inner ++ ['}']) ↔
      (c = '}' ∧ (inner ++ '}' :: post).head? = some '}') ∨ ['}', '}'] <:+: inner ++ ['}'] := by
  rw [List.infix_cons_iff, List.cons_prefix_cons]
  cases inner with
  | nil => simp [eq_comm]
  | cons next others => simp [List.cons_prefix_cons, eq_comm]

theorem close?_eq_some_iff (text body post : List Char) :
    close? text = some (body, post) ↔
      text = body ++ '}' :: '}' :: post ∧ ¬ ['}', '}'] <:+: body ++ ['}'] := by
  induction text generalizing body with
  | nil => simp [close?]
  | cons c rest ih =>
      by_cases closing : c = '}' ∧ rest.head? = some '}'
      · rw [close?_marker c rest closing]
        obtain ⟨others, rfl⟩ := List.head?_eq_some_iff.mp closing.2
        cases body with
        | nil => simp [closing.1, List.infix_cons_iff]
        | cons first inner =>
            simp only [Option.some.injEq, Prod.mk.injEq, reduceCtorEq, false_and, false_iff,
              not_and, List.cons_append, List.cons.injEq, not_not]
            rintro ⟨rfl, tail⟩
            exact (marker_infix_cons c inner ('}' :: post)).mpr (.inl (tail ▸ closing))
      · rw [close?_other_iff c rest body post closing]
        cases body with
        | nil =>
            simp only [reduceCtorEq, and_false, exists_false, List.nil_append, List.cons.injEq,
              false_iff, not_and]
            rintro ⟨rfl, rfl⟩
            exact absurd ⟨rfl, rfl⟩ closing
        | cons first inner =>
            simp only [List.cons.injEq, List.cons_append, ih,
              marker_infix_cons first inner ('}' :: post)]
            constructor
            · rintro ⟨body, ⟨rfl, free⟩, rfl, rfl⟩
              exact ⟨⟨rfl, rfl⟩, not_or.mpr ⟨closing, free⟩⟩
            · rintro ⟨⟨rfl, rfl⟩, free⟩
              exact ⟨inner, ⟨rfl, (not_or.mp free).2⟩, rfl, rfl⟩

theorem length_of_close? (text body post : List Char) (found : close? text = some (body, post)) :
    post.length < text.length := by
  obtain ⟨rfl, -⟩ := (close?_eq_some_iff text body post).mp found
  simp only [List.length_append, List.length_cons]
  omega

/-- The bodies of the closed expressions of a text, from left to right. A body begins after the
first open marker that follows the expression before it, and ends at the first close marker. -/
def closed : List Char → List (List Char)
  | [] => []
  | c :: rest =>
    if c = '{' ∧ rest.head? = some '{' then
      match _ : close? rest.tail with
      | some (body, post) => body :: closed post
      | none => []
    else closed rest
termination_by text => text.length
decreasing_by
  · have shorter := length_of_close? _ _ _ ‹close? rest.tail = some (body, post)›
    simp only [List.length_tail, List.length_cons] at shorter ⊢
    omega
  · simp

/-- The single quotes that stand outside double-quoted spans, in a text that begins inside such a
span when `quoted` holds. -/
def outerSingles : Bool → List Char → Nat
  | _, [] => 0
  | quoted, c :: rest =>
    if c = '"' then outerSingles (!quoted) rest
    else if c = '\'' ∧ quoted = false then outerSingles quoted rest + 1
    else outerSingles quoted rest

/-- The characters that stand inside expressions, in a text that begins inside one when `entered`
holds. -/
def within : Bool → List Char → List Char
  | _, [] => []
  | entered, c :: rest =>
    if c = '}' ∧ rest.head? = some '}' then within false rest
    else if entered = true ∨ c = '{' ∧ rest.head? = some '{' then c :: within true rest
    else within false rest

example : within true "a \x7d\x7d b \x7b\x7b c".toList = "a \x7b\x7b c".toList := by decide

/-- Both kinds of quotes come in pairs. A single quote within double quotes is text. -/
def IsBalanced (body : List Char) : Prop :=
  Even (body.count '"') ∧ Even (outerSingles false body)

instance : DecidablePred IsBalanced := fun _ => inferInstanceAs (Decidable (_ ∧ _))

theorem odd_count_cons (c : Char) (body : List Char) :
    decide (Odd ((c :: body).count '"')) = (decide (c = '"') ^^ decide (Odd (body.count '"'))) := by
  by_cases double : c = '"'
  · subst double
    simp only [List.count_cons_self, Nat.odd_add_one, decide_not, decide_true, Bool.true_xor]
  · rw [List.count_cons_of_ne double]
    simp [double]

theorem closed_outside (c : Char) (rest : List Char)
    (opening : ¬ (c = '{' ∧ rest.head? = some '{')) :
    closed (c :: rest) = closed rest := by
  rw [closed, if_neg opening]

theorem closed_open (rest body post : List Char) (found : close? rest = some (body, post)) :
    closed ('{' :: '{' :: rest) = body :: closed post := by
  rw [closed, if_pos ⟨rfl, rfl⟩]
  split
  · next inner after cut =>
      obtain ⟨rfl, rfl⟩ := Prod.mk.inj (Option.some.inj (cut.symm.trans found))
      rfl
  · next cut => exact absurd (cut.symm.trans found) (by simp)

-- A third brace belongs to the body at the open marker and to the text outside at the close marker.
example : closed "a \x7b\x7b\x7bb\x7d\x7d\x7d \x7b\x7bc".toList = [['{', 'b']] := by cbv

theorem closed_unclosed (rest : List Char) (missing : close? rest = none) :
    closed ('{' :: '{' :: rest) = [] := by
  rw [closed, if_pos ⟨rfl, rfl⟩]
  split
  · next cut => exact absurd (cut.symm.trans missing) (by simp)
  · rfl

end QuoteLint.Expression
