import QuoteLint.Proofs.Scalar.Keyed

/-! The language of badly quoted values in single quotes. There are no escapes here, and such a
value is known by how many quotes it holds and by where the inner ones stand. Both the pattern and
the recogniser work on what stands between the outer quotes, which is one of three forms; the count
says the same of the whole value. -/

namespace QuoteLint.Scalar

open Pattern (words)
open Text (CharSet)
open Text.CharSet (allBut allBut_holds)
open scoped Computability

/-- A value that starts and ends with a quote and holds three of them, the second directly after the
first, or three of them, the second directly before the last, and no brace, or four of them, the
second and the third adjacent. -/
structure IsBadSingleValue (value : List Char) : Prop where
  opens : value.head? = some '\''
  closes : value.getLast? = some '\''
  inner : (value.count '\'' = 3 ∧ value[1]? = some '\'') ∨
    (value.count '\'' = 3 ∧ value.dropLast.getLast? = some '\'' ∧ '{' ∉ value ∧ '}' ∉ value) ∨
    (value.count '\'' = 4 ∧ ∃ front back, value = front ++ '\'' :: '\'' :: back ∧
      front.count '\'' = 1)

inductive IsBadBody : List Char → Prop where
  | atStart (rest : List Char) (free : '\'' ∉ rest) : IsBadBody ('\'' :: rest)
  | atEnd (front : List Char) (free : '\'' ∉ front) (flat : '{' ∉ front ∧ '}' ∉ front) :
      IsBadBody (front ++ ['\''])
  | pair (front back : List Char) (before : '\'' ∉ front) (after : '\'' ∉ back) :
      IsBadBody (front ++ '\'' :: '\'' :: back)

/-! ## Counting quotes -/

theorem IsBadBody.value {body : List Char} (bad : IsBadBody body) :
    IsBadSingleValue ('\'' :: (body ++ ['\''])) := by
  refine ⟨rfl, by simp [List.getLast?_cons], ?_⟩
  cases bad with
  | atStart rest free =>
      left
      have others := List.count_eq_zero_of_not_mem free
      simp [others]
  | atEnd front free flat =>
      right; left
      have others := List.count_eq_zero_of_not_mem free
      refine ⟨by simp [others], ?_, by simp [flat], by simp [flat]⟩
      rw [← List.cons_append, List.dropLast_concat, ← List.cons_append, List.getLast?_concat]
  | pair front back before after =>
      right; right
      have othersBefore := List.count_eq_zero_of_not_mem before
      have othersAfter := List.count_eq_zero_of_not_mem after
      exact ⟨by simp [othersBefore, othersAfter], '\'' :: front, back ++ ['\''], by simp,
        by simp [othersBefore]⟩

theorem IsBadSingleValue.exists_body {value : List Char} (bad : IsBadSingleValue value) :
    ∃ body, value = '\'' :: (body ++ ['\'']) := by
  rcases List.head?_eq_some_iff.mp bad.opens with ⟨rest, rfl⟩
  have filled : rest ≠ [] := by
    intro empty
    have few : ('\'' :: rest).count '\'' = 1 := by rw [empty]; rfl
    rcases bad.inner with ⟨many, -⟩ | ⟨many, -⟩ | ⟨many, -⟩
    all_goals omega
  have closes := bad.closes
  rw [List.getLast?_cons_of_ne_nil filled] at closes
  rcases List.getLast?_eq_some_iff.mp closes with ⟨body, rfl⟩
  exact ⟨body, rfl⟩

theorem IsBadBody.of_head (body : List Char) (one : body.count '\'' = 1)
    (head : body.head? = some '\'') : IsBadBody body := by
  rcases List.head?_eq_some_iff.mp head with ⟨rest, rfl⟩
  rw [List.count_cons_self] at one
  exact .atStart rest (List.count_eq_zero.mp (by omega))

theorem IsBadBody.of_last (body : List Char) (one : body.count '\'' = 1)
    (last : body.getLast? = some '\'') (flat : '{' ∉ body ∧ '}' ∉ body) : IsBadBody body := by
  rcases List.getLast?_eq_some_iff.mp last with ⟨front, rfl⟩
  rw [List.count_append, List.count_singleton_self] at one
  exact .atEnd front (List.count_eq_zero.mp (by omega)) (by simpa using flat)

theorem IsBadBody.of_pair (front back : List Char)
    (two : (front ++ '\'' :: '\'' :: back).count '\'' = 2) :
    IsBadBody (front ++ '\'' :: '\'' :: back) := by
  rw [List.count_append, List.count_cons_self, List.count_cons_self] at two
  exact .pair front back (List.count_eq_zero.mp (by omega)) (List.count_eq_zero.mp (by omega))

theorem IsBadSingleValue.body {body : List Char}
    (bad : IsBadSingleValue ('\'' :: (body ++ ['\'']))) : IsBadBody body := by
  have count : ('\'' :: (body ++ ['\''])).count '\'' = body.count '\'' + 2 := by simp
  rcases bad.inner with ⟨three, second⟩ | ⟨three, second, flat⟩ | ⟨four, front, back, cut, one⟩
  · have single : body.count '\'' = 1 := by omega
    cases body with
    | nil => cases single
    | cons c rest => exact .of_head _ single (by simpa using second)
  · have single : body.count '\'' = 1 := by omega
    rw [← List.cons_append, List.dropLast_concat] at second
    cases body with
    | nil => cases single
    | cons c rest => exact .of_last _ single second (by simpa using flat)
  · have double : body.count '\'' = 2 := by omega
    -- The one quote before the pair is the outer one, so that the pair stands in the body.
    cases front with
    | nil => cases one
    | cons c front =>
        rcases List.cons.inj cut with ⟨rfl, later⟩
        have before : front.count '\'' = 0 := by simpa using one
        have pair : (body ++ ['\'']).count '\'' = back.count '\'' + 2 := by simp [later, before]
        have filled : back ≠ [] := by
          intro empty
          simp [empty, double] at pair
        have inside : body = front ++ '\'' :: '\'' :: back.dropLast := by
          have cutLast := congrArg List.dropLast later
          simpa [List.dropLast_cons_of_ne_nil, filled] using cutLast
        subst inside
        exact .of_pair front _ double

theorem isBadSingleValue_iff (value : List Char) :
    IsBadSingleValue value ↔ ∃ body, value = '\'' :: (body ++ ['\'']) ∧ IsBadBody body := by
  constructor
  · intro bad
    rcases bad.exists_body with ⟨body, rfl⟩
    exact ⟨body, rfl, bad.body⟩
  · intro bad
    rcases bad with ⟨body, rfl, inside⟩
    exact inside.value

/-! ## The recogniser -/

theorem isFreeOfSingle_iff (cs : List Char) : isFreeOfSingle cs = true ↔ '\'' ∉ cs := by
  simp [isFreeOfSingle, List.forall_mem_ne']

theorem all_plain_iff (cs : List Char) :
    (cs.all fun c => c != '\'' && c != '{' && c != '}') = true ↔
      '\'' ∉ cs ∧ '{' ∉ cs ∧ '}' ∉ cs := by
  simp only [List.all_eq_true, Bool.and_eq_true, bne_iff_ne, ne_eq, and_assoc]
  constructor
  · intro plain
    exact ⟨fun member => (plain _ member).1 rfl, fun member => (plain _ member).2.1 rfl,
      fun member => (plain _ member).2.2 rfl⟩
  · intro free c member
    exact ⟨fun equal => free.1 (equal ▸ member), fun equal => free.2.1 (equal ▸ member),
      fun equal => free.2.2 (equal ▸ member)⟩

theorem dropWhile_eq_pair_iff (body back : List Char) :
    body.dropWhile (· != '\'') = '\'' :: '\'' :: back ↔
      ∃ front, '\'' ∉ front ∧ body = front ++ '\'' :: '\'' :: back := by
  constructor
  · intro found
    refine ⟨body.takeWhile (· != '\''), ?_, ?_⟩
    · intro member
      exact absurd (List.all_eq_true.mp List.all_takeWhile _ member) (by decide)
    · rw [← found, List.takeWhile_append_dropWhile]
  · intro cut
    rcases cut with ⟨front, free, rfl⟩
    exact (run_append _ front _ (by simpa [List.forall_mem_ne'] using free) (by simp)).2

theorem isBadSingleBody_iff (body : List Char) : isBadSingleBody body = true ↔ IsBadBody body := by
  simp only [isBadSingleBody, Bool.or_eq_true, Bool.and_eq_true, beq_iff_eq, isFreeOfSingle_iff,
    or_assoc]
  constructor
  · intro bad
    rcases bad with ⟨head, free⟩ | ⟨last, free⟩ | pair
    · rcases List.head?_eq_some_iff.mp head with ⟨rest, rfl⟩
      exact .atStart rest free
    · rcases List.getLast?_eq_some_iff.mp last with ⟨front, rfl⟩
      rw [List.dropLast_concat, all_plain_iff] at free
      exact .atEnd front free.1 free.2
    · split at pair
      · next back found =>
          rcases (dropWhile_eq_pair_iff body back).mp found with ⟨front, before, rfl⟩
          exact .pair front back before ((isFreeOfSingle_iff back).mp pair)
      · cases pair
  · intro bad
    cases bad with
    | atStart rest free => exact .inl ⟨rfl, free⟩
    | atEnd front free flat =>
        right; left
        rw [List.getLast?_concat, List.dropLast_concat, all_plain_iff]
        exact ⟨rfl, free, flat⟩
    | pair front back before after =>
        right; right
        have found := (dropWhile_eq_pair_iff _ back).mpr ⟨front, before, rfl⟩
        rw [found]
        exact (isFreeOfSingle_iff back).mpr after

theorem isBadSingle_iff (text : List Char) :
    isBadSingle text = true ↔ ∃ value, Keyed text value ∧ IsBadSingleValue value := by
  simp only [isBadSingleValue_iff]
  constructor
  · intro bad
    rw [isBadSingle] at bad
    split at bad
    · next rest found =>
        rw [Bool.and_eq_true, beq_iff_eq, isBadSingleBody_iff] at bad
        rcases List.getLast?_eq_some_iff.mp bad.1 with ⟨body, rfl⟩
        rw [List.dropLast_concat] at bad
        exact ⟨_, keyed_of_value? text _ found, body, rfl, bad.2⟩
    · cases bad
  · intro bad
    rcases bad with ⟨_, keyed, body, rfl, inside⟩
    rw [isBadSingle, value?_of_keyed text '\'' _ keyed rfl]
    simp only [List.getLast?_concat, List.dropLast_concat, beq_self_eq_true, Bool.true_and]
    exact (isBadSingleBody_iff body).mpr inside

/-! ## The pattern -/

def singleValuePattern : String := "'(?:'[^']*|[^'\x7b\x7d]*'|[^']*''[^']*)'$"

def singlePattern : String := keyPattern ++ singleValuePattern

def bodyPattern : Pattern :=
  .alt (.seq (.one (.single '\'')) (.times (.one (allBut ['\''])) 0 none))
    (.alt (.seq (.times (.one (allBut ['}', '{', '\''])) 0 none) (.one (.single '\'')))
      (.seq (.times (.one (allBut ['\''])) 0 none)
        (.seq (.one (.single '\''))
          (.seq (.one (.single '\'')) (.times (.one (allBut ['\''])) 0 none)))))

def singleParts : List Pattern := [.one (.single '\''), bodyPattern, .one (.single '\'')]

theorem mem_star_allBut (chars word : List Char) :
    word ∈ (words (.one (allBut chars)))∗ ↔ ∀ c ∈ chars, c ∉ word := by
  simp only [Pattern.mem_star_one, allBut_holds]
  constructor
  · intro other c listed member
    exact other c member listed
  · intro free c member listed
    exact free c listed member

theorem mem_body_words (body : List Char) : body ∈ words bodyPattern ↔ IsBadBody body := by
  have free (word : List Char) : (∀ c ∈ ['\''], c ∉ word) ↔ '\'' ∉ word := List.forall_mem_singleton
  have flat (word : List Char) : (∀ c ∈ ['}', '{', '\''], c ∉ word) ↔
      '\'' ∉ word ∧ '{' ∉ word ∧ '}' ∉ word := by
    simp only [List.forall_mem_cons]
    tauto
  simp only [bodyPattern, Pattern.words_alt, Pattern.words_seq, Pattern.words_star,
    Language.mem_add, Language.mem_mul, Pattern.mem_words_single, mem_star_allBut, free, flat]
  constructor
  · intro taken
    rcases taken with ⟨_, rfl, rest, single, rfl⟩ | ⟨front, plain, _, rfl, rfl⟩ |
      ⟨front, before, _, ⟨_, rfl, _, ⟨_, rfl, back, later, rfl⟩, rfl⟩, rfl⟩
    · exact .atStart rest single
    · exact .atEnd front plain.1 plain.2
    · exact .pair front back before later
  · intro bad
    cases bad with
    | atStart rest single => exact .inl ⟨_, rfl, rest, single, rfl⟩
    | atEnd front single braces => exact .inr (.inl ⟨front, ⟨single, braces⟩, _, rfl, rfl⟩)
    | pair front back before later =>
        exact .inr (.inr ⟨front, before, _, ⟨_, rfl, _, ⟨_, rfl, back, later, rfl⟩, rfl⟩, rfl⟩)

theorem mem_single_words (value : List Char) :
    value ∈ (singleParts.map words).prod ↔ IsBadSingleValue value := by
  simp only [singleParts, List.map_cons, List.map_nil, List.prod_cons, List.prod_nil, mul_one,
    Language.mem_mul, Pattern.mem_words_single, mem_body_words, isBadSingleValue_iff]
  constructor
  · intro taken
    rcases taken with ⟨_, rfl, _, ⟨body, inside, _, rfl, rfl⟩, rfl⟩
    exact ⟨body, rfl, inside⟩
  · intro bad
    rcases bad with ⟨body, rfl, inside⟩
    exact ⟨_, rfl, _, ⟨body, inside, _, rfl, rfl⟩, rfl⟩

section Reading

open Pattern (Part branches?)

variable (fuel : Nat) (rest : List Char) (names : List (List Char)) (parts branches : List Part)

theorem branches?_free :
    branches? (fuel + 1) ⟨'[' :: '^' :: '\'' :: ']' :: rest, .start, names⟩ parts branches =
      branches? fuel ⟨rest, .start, names⟩
        (⟨.one (allBut ['\'']), 1, false⟩ :: parts) branches := by
  rfl

theorem branches?_flat :
    branches? (fuel + 1) ⟨'[' :: '^' :: '\'' :: '{' :: '}' :: ']' :: rest, .start, names⟩
        parts branches =
      branches? fuel ⟨rest, .start, names⟩
        (⟨.one (allBut ['}', '{', '\'']), 2, false⟩ :: parts) branches := by
  rfl

theorem branches?_single :
    branches? (fuel + 40) ⟨singleValuePattern.toList, .start, []⟩ keyRead [] =
      some (⟨Pattern.anchored (keyParts ++ singleParts), 7, false⟩, ⟨[], .start, []⟩) := by
  simp only [singleValuePattern, String.reduceToList]
  simp (disch := decide) only [branches?_free, branches?_flat, Pattern.branches?_char,
    Pattern.branches?_open,
    Pattern.group?_unremembered, Pattern.body?_eq, Pattern.branches?_bar, Pattern.branches?_close,
    Pattern.branches?_star, Pattern.branches?_textEnd, Pattern.branches?_nil, Option.bind_some]
  rfl

theorem single_not_tooLarge : (Pattern.anchored (keyParts ++ singleParts)).isTooLarge = false := by
  have members : CharSet.unionAll (['}', '{', '\''].map CharSet.single) =
      ⟨[(39, 39), (123, 123), (125, 125)]⟩ := by
    simp [CharSet.unionAll, CharSet.ofRanges, CharSet.single, CharSet.span, CharSet.coalesce,
      List.mergeSort, List.MergeSort.Internal.splitInTwo]
  simp only [keyParts, spacingSet_eq, wordSet_eq, keySet_eq, singleParts, bodyPattern, allBut,
    members]
  decide +kernel

theorem read?_singlePattern :
    Pattern.read? singlePattern.toList = some (Pattern.anchored (keyParts ++ singleParts)) := by
  rw [singlePattern, String.toList_append]
  exact read?_keyed _ '\'' (by decide) _ branches?_single (by decide) single_not_tooLarge

end Reading

/-- A text is found badly quoted in single quotes if it has a key and a value that the count of the
quotes tells to be so, and these are the texts in which the pattern occurs. -/
theorem single_pattern_language (text : List Char) :
    (isBadSingle text = true ↔ ∃ value, Keyed text value ∧ IsBadSingleValue value) ∧
    isBadSingle text = (Pattern.read? singlePattern.toList).any (·.occursIn text) := by
  refine ⟨isBadSingle_iff text, ?_⟩
  rw [read?_singlePattern, Option.any_some, Bool.eq_iff_iff, isBadSingle_iff,
    occursIn_keyed _ (by decide)]
  simp only [mem_single_words, and_comm]

end QuoteLint.Scalar
