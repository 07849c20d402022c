import QuoteLint.Proofs.Pattern.Reader
import QuoteLint.Proofs.Pattern.Words
import QuoteLint.Quote.Scalar

/-! Texts that begin with a key and a colon: what they are, that `value?` finds what follows, and
that the pattern for the key takes the same texts. -/

namespace QuoteLint.Scalar

open Pattern (words)
open Text (CharSet)
open scoped Computability

def IsSpacing (c : Char) : Prop := c = '\t' ∨ c = '\n' ∨ c = '\x0c' ∨ c = '\r' ∨ c = ' '

def IsWordChar (c : Char) : Prop :=
  ('0' ≤ c ∧ c ≤ '9') ∨ ('A' ≤ c ∧ c ≤ 'Z') ∨ ('a' ≤ c ∧ c ≤ 'z') ∨ c = '_'

structure IsKeyName (key : List Char) : Prop where
  long : 2 ≤ key.length
  first : ∀ c ∈ key.head?, IsWordChar c
  last : ∀ c ∈ key.getLast?, IsWordChar c
  chars : ∀ c ∈ key, IsWordChar c ∨ c = '-' ∨ c = '.' ∨ c = '/'

/-- A text is a key, a colon and a value, with spacing before the key and on both sides of the
colon. -/
def Keyed (text value : List Char) : Prop :=
  ∃ before key between after : List Char,
    text = before ++ (key ++ (between ++ ':' :: (after ++ value))) ∧ IsKeyName key ∧
    (∀ c ∈ before, IsSpacing c) ∧ (∀ c ∈ between, IsSpacing c) ∧ ∀ c ∈ after, IsSpacing c

/-! ## Reading the key -/

theorem isSpacing_iff (c : Char) : isSpacing c = true ↔ IsSpacing c := by
  simp [isSpacing, IsSpacing, or_assoc]

theorem isWordChar_iff (c : Char) :
    IsWordChar c ↔ (48 ≤ c.toNat ∧ c.toNat ≤ 57) ∨ (65 ≤ c.toNat ∧ c.toNat ≤ 90) ∨
      (97 ≤ c.toNat ∧ c.toNat ≤ 122) ∨ c.toNat = 95 := by
  have underscore : c = '_' ↔ c.toNat = 95 := Char.toNat_inj.symm
  rw [IsWordChar, underscore]
  rfl

theorem isWord_iff (c : Char) : isWord c = true ↔ IsWordChar c := by
  have letter : c.isAlphanum =
      (decide ('A' ≤ c ∧ c ≤ 'Z') || (decide ('a' ≤ c) && decide (c ≤ 'z')) ||
      (decide ('0' ≤ c) && decide (c ≤ '9'))) := rfl
  simp only [isWord, letter, Bool.or_eq_true, Bool.and_eq_true, decide_eq_true_eq, beq_iff_eq,
    IsWordChar]
  tauto

theorem isKeyChar_iff (c : Char) :
    isKeyChar c = true ↔ IsWordChar c ∨ c = '-' ∨ c = '.' ∨ c = '/' := by
  simp [isKeyChar, isWord_iff, or_assoc]

theorem isKey_iff (key : List Char) : isKey key = true ↔ IsKeyName key := by
  simp only [isKey, Bool.and_eq_true, List.all_eq_true, decide_eq_true_eq, isKeyChar_iff]
  constructor
  · intro known
    rcases known with ⟨⟨⟨chars, long⟩, first⟩, last⟩
    refine ⟨long, ?_, ?_, chars⟩
    · intro c head
      rw [Option.mem_def.mp head] at first
      exact (isWord_iff c).mp first
    · intro c final
      rw [Option.mem_def.mp final] at last
      exact (isWord_iff c).mp last
  · intro name
    have filled : key ≠ [] :=
      List.ne_nil_of_length_pos (Nat.lt_of_lt_of_le Nat.zero_lt_two name.long)
    refine ⟨⟨⟨name.chars, name.long⟩, ?_⟩, ?_⟩
    · rw [List.head?_eq_some_head filled]
      exact (isWord_iff _).mpr (name.first _ (List.head?_eq_some_head filled))
    · rw [List.getLast?_eq_some_getLast filled]
      exact (isWord_iff _).mpr (name.last _ (List.getLast?_eq_some_getLast filled))

theorem run_append (p : Char → Bool) (front back : List Char) (all : ∀ c ∈ front, p c = true)
    (stop : ∀ c ∈ back.head?, p c = false) :
    (front ++ back).takeWhile p = front ∧ (front ++ back).dropWhile p = back := by
  have nothing : back.takeWhile p = [] ∧ back.dropWhile p = back := by
    cases back with
    | nil => exact ⟨rfl, rfl⟩
    | cons c rest =>
        have other := stop c rfl
        exact ⟨by simp [other], by simp [other]⟩
  rw [List.takeWhile_append_of_pos all, List.dropWhile_append_of_pos all, nothing.1, nothing.2,
    List.append_nil]
  exact ⟨rfl, rfl⟩

theorem keyed_of_value? (text value : List Char) (found : value? text = some value) :
    Keyed text value := by
  let start := text.dropWhile isSpacing
  let rest := start.dropWhile isKeyChar
  have spaces (cs : List Char) : ∀ c ∈ cs.takeWhile isSpacing, IsSpacing c := by
    intro c member
    exact (isSpacing_iff c).mp (List.all_eq_true.mp List.all_takeWhile c member)
  simp only [value?] at found
  split at found
  · next name =>
      split at found
      · next tail colon =>
          refine ⟨text.takeWhile isSpacing, start.takeWhile isKeyChar, rest.takeWhile isSpacing,
            tail.takeWhile isSpacing, ?_, (isKey_iff _).mp name, spaces _, spaces _, spaces _⟩
          rw [← Option.some.inj found, List.takeWhile_append_dropWhile, ← colon,
            List.takeWhile_append_dropWhile, List.takeWhile_append_dropWhile,
            List.takeWhile_append_dropWhile]
      · cases found
  · cases found

theorem not_isKeyChar (c : Char) (other : IsSpacing c ∨ c = ':') : isKeyChar c = false := by
  rcases other with (rfl | rfl | rfl | rfl | rfl) | rfl
  all_goals rfl

theorem not_isSpacing (c : Char) (word : IsWordChar c) : isSpacing c = false := by
  have keyChar : isKeyChar c = true := (isKeyChar_iff c).mpr (.inl word)
  rw [← Bool.not_eq_true, isSpacing_iff]
  intro spacing
  rw [not_isKeyChar c (.inl spacing)] at keyChar
  cases keyChar

/-- Spacing, keys and the colon have no character in common, so that the key can be read from left
to right. -/
theorem value?_of_keyed (text : List Char) (first : Char) (rest : List Char)
    (keyed : Keyed text (first :: rest)) (other : isSpacing first = false) :
    value? text = some (first :: rest) := by
  rcases keyed with ⟨before, key, between, after, rfl, name, spacesBefore, spacesBetween,
    spacesAfter⟩
  have spaces (part : List Char) (all : ∀ c ∈ part, IsSpacing c) : ∀ c ∈ part, isSpacing c = true :=
    fun c member => (isSpacing_iff c).mpr (all c member)
  have start := run_append isSpacing before (key ++ (between ++ ':' :: (after ++ first :: rest)))
    (spaces before spacesBefore) (by
      intro c head
      cases key with
      | nil => exact absurd name.long (by decide)
      | cons d tail => exact not_isSpacing c (name.first c head))
  have word := run_append isKeyChar key (between ++ ':' :: (after ++ first :: rest))
    (fun c member => (isKeyChar_iff c).mpr (name.chars c member)) (by
      intro c head
      cases between with
      | nil => exact not_isKeyChar c (.inr (Option.some.inj head).symm)
      | cons d tail => exact not_isKeyChar c (.inl (spacesBetween c (List.mem_of_mem_head? head))))
  have colon := run_append isSpacing between (':' :: (after ++ first :: rest))
    (spaces between spacesBetween) (by
      intro c head
      rw [← Option.some.inj head]
      rfl)
  have value := run_append isSpacing after (first :: rest) (spaces after spacesAfter) (by
    intro c head
    rw [← Option.some.inj head]
    exact other)
  simp only [value?, start.2, word.1, word.2, (isKey_iff key).mpr name, if_true, colon.2, value.2]

/-! ## The pattern of the key -/

def keyPattern : String :=
  "^([\\t\\n\\f\\r ]*)[0-9A-Za-z_][-0-9A-Za-z_./]*[0-9A-Za-z_][\\t\\n\\f\\r ]*:[\\t\\n\\f\\r ]*"

-- The members of a set are held in reverse.
def spacingSet : CharSet :=
  .unionAll [.single ' ', .single '\r', .single '\x0c', .single '\n', .single '\t']

def wordSet : CharSet := .unionAll [.single '_', .span 97 122, .span 65 90, .span 48 57]

def keySet : CharSet :=
  .unionAll [.single '/', .single '.', .single '_', .span 97 122, .span 65 90, .span 48 57,
    .single '-']

def keyParts : List Pattern :=
  [.group (.times (.one spacingSet) 0 none), .one wordSet, .times (.one keySet) 0 none,
    .one wordSet,
    .times (.one spacingSet) 0 none, .one (.single ':'), .times (.one spacingSet) 0 none]

theorem spacingSet_eq : spacingSet = ⟨[(9, 10), (12, 13), (32, 32)]⟩ := by
  simp [spacingSet, CharSet.unionAll, CharSet.ofRanges, CharSet.single, CharSet.span,
    CharSet.coalesce, List.mergeSort, List.MergeSort.Internal.splitInTwo]

theorem wordSet_eq : wordSet = ⟨[(48, 57), (65, 90), (95, 95), (97, 122)]⟩ := by
  simp [wordSet, CharSet.unionAll, CharSet.ofRanges, CharSet.single, CharSet.span, CharSet.coalesce,
    List.mergeSort, List.MergeSort.Internal.splitInTwo]

theorem keySet_eq : keySet = ⟨[(45, 57), (65, 90), (95, 95), (97, 122)]⟩ := by
  simp [keySet, CharSet.unionAll, CharSet.ofRanges, CharSet.single, CharSet.span, CharSet.coalesce,
    List.mergeSort, List.MergeSort.Internal.splitInTwo]

section Reading

open Pattern (Part branches? branches?_textStart branches?_open branches?_char branches?_star
  branches?_close group?_plain body?_eq)

variable (fuel : Nat) (rest : List Char) (names : List (List Char)) (parts branches : List Part)

theorem branches?_spacing :
    branches? (fuel + 1) ⟨'[' :: '\\' :: 't' :: '\\' :: 'n' :: '\\' :: 'f' :: '\\' :: 'r' :: ' ' ::
      ']' :: rest,
        .start, names⟩ parts branches =
      branches? fuel ⟨rest, .start, names⟩ (⟨.one spacingSet, 2, false⟩ :: parts) branches := by rfl

theorem branches?_word :
    branches? (fuel + 1) ⟨'[' :: '0' :: '-' :: '9' :: 'A' :: '-' :: 'Z' :: 'a' :: '-' :: 'z' ::
      '_' :: ']' :: rest,
        .start, names⟩ parts branches =
      branches? fuel ⟨rest, .start, names⟩ (⟨.one wordSet, 2, false⟩ :: parts) branches := by rfl

theorem branches?_keyChars :
    branches? (fuel + 1) ⟨'[' :: '-' :: '0' :: '-' :: '9' :: 'A' :: '-' :: 'Z' :: 'a' :: '-' ::
      'z' :: '_' :: '.' ::
        '/' :: ']' :: rest, .start, names⟩ parts branches =
      branches? fuel ⟨rest, .start, names⟩ (⟨.one keySet, 2, false⟩ :: parts) branches := by rfl

def keyRead : List Part :=
  [⟨.times (.one spacingSet) 0 none, 3, false⟩, ⟨.one (.single ':'), 0, false⟩,
    ⟨.times (.one spacingSet) 0 none, 3, false⟩, ⟨.one wordSet, 2, false⟩,
    ⟨.times (.one keySet) 0 none, 3, false⟩, ⟨.one wordSet, 2, false⟩,
    ⟨.group (.times (.one spacingSet) 0 none), 4, false⟩, ⟨.edge .textStart, 0, false⟩]

theorem branches?_key (c : Char) (greedy : c ≠ '?') :
    branches? (fuel + 20) ⟨keyPattern.toList ++ c :: rest, .start, []⟩ [] [] =
      branches? (fuel + 9) ⟨c :: rest, .start, []⟩ keyRead [] := by
  simp only [keyPattern, String.reduceToList, List.cons_append, List.nil_append]
  simp (disch := first | decide | exact greedy) only [branches?_textStart, branches?_open,
    group?_plain, body?_eq,
    branches?_spacing, branches?_word, branches?_keyChars, branches?_star, branches?_char,
      branches?_close,
    Option.bind_some]
  rfl

theorem read?_keyed (c : Char) (greedy : c ≠ '?') (part : Part)
    (read : ∀ fuel, branches? (fuel + 40) ⟨c :: rest, .start, []⟩ keyRead [] =
      some (part, ⟨[], .start, []⟩))
    (shallow : part.depth ≤ Pattern.maxDepth) (small : part.pattern.isTooLarge = false) :
    Pattern.read? (keyPattern.toList ++ c :: rest) = some part.pattern := by
  have size : keyPattern.toList.length = 80 := by rfl
  have steps : 3 * (keyPattern.toList ++ c :: rest).length + 3 =
      3 * rest.length + 195 + 31 + 20 := by
    rw [List.length_append, List.length_cons, size]
    omega
  apply Pattern.read?_of_branches? _ part .start [] _ shallow small
  rw [steps, branches?_key _ _ c greedy]
  exact read (3 * rest.length + 195)

end Reading

theorem spacingSet_holds (c : Char) : spacingSet.holds c.toNat = true ↔ IsSpacing c := by
  simp only [spacingSet, CharSet.unionAll_holds, List.any_cons, List.any_nil, Bool.or_false,
    Bool.or_eq_true, CharSet.single_holds, IsSpacing]
  tauto

theorem wordSet_holds (c : Char) : wordSet.holds c.toNat = true ↔ IsWordChar c := by
  have underscore : c = '_' ↔ c.toNat = 95 := Char.toNat_inj.symm
  simp only [wordSet, CharSet.unionAll_holds, List.any_cons, List.any_nil, Bool.or_false,
    Bool.or_eq_true, CharSet.single_holds, CharSet.span_holds, isWordChar_iff, underscore]
  omega

theorem keySet_holds (c : Char) :
    keySet.holds c.toNat = true ↔ IsWordChar c ∨ c = '-' ∨ c = '.' ∨ c = '/' := by
  have underscore : c = '_' ↔ c.toNat = 95 := Char.toNat_inj.symm
  simp only [keySet, CharSet.unionAll_holds, List.any_cons, List.any_nil, Bool.or_false,
    Bool.or_eq_true, CharSet.single_holds, CharSet.span_holds, isWordChar_iff, underscore]
  tauto

theorem mem_key_words (key : List Char) :
    key ∈ words (.one wordSet) * ((words (.one keySet))∗ * words (.one wordSet)) ↔
      IsKeyName key := by
  simp only [Language.mem_mul, Pattern.mem_words_one, Pattern.mem_star_one, wordSet_holds,
    keySet_holds]
  constructor
  · intro taken
    rcases taken with ⟨_, ⟨a, rfl, first⟩, _, ⟨middle, inner, _, ⟨b, rfl, last⟩, rfl⟩, rfl⟩
    refine ⟨by simp, by simpa using first, ?_, ?_⟩
    · simpa [List.getLast?_cons, List.getLast?_append] using last
    · intro c member
      simp only [List.singleton_append, List.mem_cons, List.mem_append, List.mem_nil_iff,
        or_false] at member
      rcases member with rfl | inside | rfl
      · exact .inl first
      · exact inner c inside
      · exact .inl last
  · intro name
    rcases name with ⟨long, first, last, chars⟩
    rcases List.exists_cons_of_length_pos (Nat.lt_of_lt_of_le Nat.zero_lt_two long) with
      ⟨a, tail, rfl⟩
    have filled : tail ≠ [] := by
      intro empty
      simp [empty] at long
    have ending : (a :: tail).getLast? = some (tail.getLast filled) := by
      rw [List.getLast?_cons, List.getLast?_eq_some_getLast filled]
      rfl
    refine ⟨[a], ⟨a, rfl, first a rfl⟩, tail, ⟨tail.dropLast, ?_, [tail.getLast filled],
      ⟨_, rfl, last _ ending⟩, List.dropLast_append_getLast filled⟩, rfl⟩
    intro c member
    exact chars c (List.mem_cons_of_mem a (List.mem_of_mem_dropLast member))

theorem mem_keyed_words (text : List Char) (rest : Language Char) :
    text ∈ (keyParts.map words).prod * rest ↔ ∃ value ∈ rest, Keyed text value := by
  have parts : (keyParts.map words).prod * rest = (words (.one spacingSet))∗ *
      ((words (.one wordSet) * ((words (.one keySet))∗ * words (.one wordSet))) *
        ((words (.one spacingSet))∗ *
          (words (.one (.single ':')) * ((words (.one spacingSet))∗ * rest)))) := by
    simp only [keyParts, List.map_cons, List.map_nil, List.prod_cons, List.prod_nil,
      Pattern.words_group, Pattern.words_star, mul_one, mul_assoc]
  rw [parts, Language.mem_mul]
  constructor
  · intro taken
    rcases taken with ⟨before, first, _, named, rfl⟩
    rcases Language.mem_mul.mp named with ⟨key, name, _, spaced, rfl⟩
    rcases Language.mem_mul.mp spaced with ⟨between, second, _, marked, rfl⟩
    rcases Language.mem_mul.mp marked with ⟨_, colon, _, given, rfl⟩
    rcases Language.mem_mul.mp given with ⟨after, third, value, member, rfl⟩
    rw [(Pattern.mem_words_single ':' _).mp colon]
    simp only [Pattern.mem_star_one, spacingSet_holds] at first second third
    exact ⟨value, member, before, key, between, after, rfl, (mem_key_words key).mp name, first,
      second, third⟩
  · intro keyed
    rcases keyed with ⟨value, member, before, key, between, after, rfl, name, first, second, third⟩
    simp only [← spacingSet_holds, ← Pattern.mem_star_one] at first second third
    have colon := (Pattern.mem_words_single ':' [':']).mpr rfl
    have given := Language.append_mem_mul colon (Language.append_mem_mul third member)
    have named :=
      Language.append_mem_mul ((mem_key_words key).mpr name) (Language.append_mem_mul second given)
    exact ⟨before, first, _, named, rfl⟩

theorem occursIn_keyed (parts : List Pattern) (plain : ∀ part ∈ parts, part.isPlain = true)
    (text : List Char) :
    (Pattern.anchored (keyParts ++ parts)).occursIn text = true ↔
      ∃ value ∈ (parts.map words).prod, Keyed text value := by
  have keyPlain : ∀ part ∈ keyParts, part.isPlain = true := by decide
  have allPlain := List.forall_mem_append.mpr ⟨keyPlain, plain⟩
  rw [Pattern.occursIn_anchored _ allPlain, List.map_append, List.prod_append, mem_keyed_words]

end QuoteLint.Scalar
