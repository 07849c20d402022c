import QuoteLint.Proofs.Scalar.Keyed

/-! The language of badly quoted values in double quotes. A value is read as tokens, in which a
backslash takes the next character with it. What the pattern for such values repeats and leaves open
comes down to where the unescaped quotes stand: one at the start, two at the end, and these are not
the same. -/

namespace QuoteLint.Scalar

open Pattern (words)
open Text (CharSet)
open Text.CharSet (allBut allBut_holds)
open scoped Computability

/-- A character, or a backslash and the character that it takes with it. -/
inductive Token where
  | plain (c : Char) (other : c ≠ '\\')
  | escaped (c : Char) (other : c ≠ '\n')
  deriving DecidableEq

namespace Token

def quote : Token := .plain '"' (by decide)

def spell : Token → List Char
  | .plain c _ => [c]
  | .escaped c _ => ['\\', c]

end Token

def spelling (tokens : List Token) : List Char := tokens.flatMap Token.spell

/-- A value that reads as tokens, the first of them an unescaped quote, the last two unescaped
quotes, and at least three of them unescaped quotes. -/
def IsBadDoubleValue (value : List Char) : Prop :=
  ∃ tokens : List Token, value = spelling tokens ∧ tokens.head? = some .quote ∧
    [.quote, .quote] <:+ tokens ∧ 3 ≤ tokens.count .quote

/-! ## Tokens -/

theorem spelling_cons (token : Token) (tokens : List Token) :
    spelling (token :: tokens) = token.spell ++ spelling tokens := rfl

theorem spelling_append (front back : List Token) :
    spelling (front ++ back) = spelling front ++ spelling back :=
  List.flatMap_append

theorem spelling_eq_nil_iff (tokens : List Token) : spelling tokens = [] ↔ tokens = [] := by
  cases tokens with
  | nil => simp [spelling]
  | cons token rest => cases token <;> simp [spelling_cons, Token.spell]

theorem spell_append_eq_iff (token : Token) (rest : List Char) (tokens : List Token) :
    token.spell ++ rest = spelling tokens ↔
      ∃ others, tokens = token :: others ∧ rest = spelling others := by
  cases tokens with
  | nil => cases token <;> simp [spelling, Token.spell]
  | cons first others =>
      cases token with
      | plain c other =>
          cases first with
          | plain d _ => simp [spelling_cons, Token.spell, eq_comm]
          | escaped d _ => simp [spelling_cons, Token.spell, other]
      | escaped c _ =>
          cases first with
          | plain d other => simp [spelling_cons, Token.spell, Ne.symm other]
          | escaped d _ => simp [spelling_cons, Token.spell, eq_comm]

theorem of_backslash_eq_spelling (rest : List Char) (tokens : List Token)
    (equal : '\\' :: rest = spelling tokens) : ∃ c tail, rest = c :: tail ∧ c ≠ '\n' := by
  cases tokens with
  | nil => cases equal
  | cons first others =>
      cases first with
      | plain d other => exact absurd (List.cons.inj equal).1.symm other
      | escaped d other => exact ⟨d, spelling others, (List.cons.inj equal).2, other⟩

theorem two_quotes_suffix_iff (front back : List Token) (token : Token) (other : token ≠ .quote) :
    [.quote, .quote] <:+ front ++ token :: back ↔ [.quote, .quote] <:+ back := by
  constructor
  · intro ends
    rcases List.suffix_or_suffix_of_suffix ends (List.suffix_append front (token :: back)) with
      inside | around
    · rcases List.suffix_cons_iff.mp inside with whole | inside
      · exact absurd (List.cons.inj whole).1.symm other
      · exact inside
    · have member : token ∈ [Token.quote, Token.quote] := around.subset List.mem_cons_self
      exact absurd (by simpa using member) other
  · intro ends
    exact ends.trans ((List.suffix_cons token back).trans (List.suffix_append front _))

theorem isBadDoubleValue_iff (value : List Char) :
    IsBadDoubleValue value ↔
      ∃ tokens, value = '"' :: spelling tokens ∧ [.quote, .quote] <:+ tokens := by
  constructor
  · intro bad
    rcases bad with ⟨tokens, rfl, opens, ends, enough⟩
    rcases List.head?_eq_some_iff.mp opens with ⟨rest, rfl⟩
    refine ⟨rest, rfl, ?_⟩
    rcases List.suffix_cons_iff.mp ends with whole | inside
    · rw [← whole] at enough
      exact absurd enough (by decide)
    · exact inside
  · intro bad
    rcases bad with ⟨rest, rfl, ends⟩
    have two : [Token.quote, Token.quote].count .quote ≤ rest.count .quote :=
      ends.sublist.count_le .quote
    have pair : [Token.quote, Token.quote].count .quote = 2 := by decide
    have first : (Token.quote :: rest).count .quote = rest.count .quote + 1 := List.count_cons_self
    exact ⟨.quote :: rest, rfl, rfl, ends.trans (List.suffix_cons _ _), by omega⟩

/-! ## The recogniser -/

theorem ends_in_two_quotes_cons_iff (run : Nat) (token : Token) (rest : List Char)
    (other : token ≠ .quote) :
    (∃ tokens, token.spell ++ rest = spelling tokens ∧
      [.quote, .quote] <:+ List.replicate run .quote ++ tokens) ↔
    ∃ tokens, rest = spelling tokens ∧ [.quote, .quote] <:+ List.replicate 0 .quote ++ tokens := by
  simp only [spell_append_eq_iff]
  constructor
  · intro found
    rcases found with ⟨_, ⟨tokens, rfl, spelled⟩, ends⟩
    exact ⟨tokens, spelled, (two_quotes_suffix_iff _ tokens token other).mp ends⟩
  · intro found
    rcases found with ⟨tokens, spelled, ends⟩
    exact ⟨_, ⟨tokens, rfl, spelled⟩, (two_quotes_suffix_iff _ tokens token other).mpr ends⟩

theorem endsInTwoQuotes_iff (run : Nat) (text : List Char) :
    endsInTwoQuotes run text = true ↔
      ∃ tokens, text = spelling tokens ∧
        [.quote, .quote] <:+ List.replicate run .quote ++ tokens := by
  fun_induction endsInTwoQuotes run text with
  | case1 run =>
      have empty (tokens : List Token) : [] = spelling tokens ↔ tokens = [] :=
        eq_comm.trans (spelling_eq_nil_iff tokens)
      simp [empty, List.suffix_replicate_iff]
  | case2 run rest ih =>
      have turn (tokens : List Token) :
          List.replicate run .quote ++ .quote :: tokens =
            List.replicate (run + 1) Token.quote ++ tokens := by
        rw [List.replicate_succ', List.append_assoc]
        rfl
      have here := spell_append_eq_iff .quote rest
      rw [ih]
      constructor
      · intro found
        rcases found with ⟨tokens, spelled, ends⟩
        exact ⟨_, (here _).mpr ⟨tokens, rfl, spelled⟩, turn tokens ▸ ends⟩
      · intro found
        rcases found with ⟨all, spelled, ends⟩
        rcases (here all).mp spelled with ⟨tokens, rfl, later⟩
        exact ⟨tokens, later, turn tokens ▸ ends⟩
  | case3 run rest =>
      refine iff_of_false (by decide) ?_
      intro found
      rcases found with ⟨tokens, spelled, -⟩
      rcases of_backslash_eq_spelling _ tokens spelled with ⟨c, tail, equal, other⟩
      exact other (List.cons.inj equal).1.symm
  | case4 run c rest other ih =>
      rw [ih]
      exact (ends_in_two_quotes_cons_iff run (.escaped c other) rest (by simp [Token.quote])).symm
  | case5 run =>
      refine iff_of_false (by decide) ?_
      intro found
      rcases found with ⟨tokens, spelled, -⟩
      rcases of_backslash_eq_spelling _ tokens spelled with ⟨c, tail, equal, -⟩
      cases equal
  | case6 run c rest double newline follows last ih =>
      have other : c ≠ '\\' := by
        intro backslash
        cases rest with
        | nil => exact last backslash rfl
        | cons d tail => exact follows d tail backslash rfl
      rw [ih]
      exact (ends_in_two_quotes_cons_iff run (.plain c other) rest
        (by simpa [Token.quote] using double)).symm

theorem isBadDouble_iff (text : List Char) :
    isBadDouble text = true ↔ ∃ value, Keyed text value ∧ IsBadDoubleValue value := by
  simp only [isBadDoubleValue_iff]
  constructor
  · intro bad
    rw [isBadDouble] at bad
    split at bad
    · next rest found =>
        rcases (endsInTwoQuotes_iff 0 rest).mp bad with ⟨tokens, rfl, ends⟩
        exact ⟨_, keyed_of_value? text _ found, tokens, rfl, ends⟩
    · cases bad
  · intro bad
    rcases bad with ⟨_, keyed, tokens, rfl, ends⟩
    rw [isBadDouble, value?_of_keyed text '"' _ keyed rfl]
    exact (endsInTwoQuotes_iff 0 _).mpr ⟨tokens, rfl, ends⟩

/-! ## The pattern -/

def doubleValuePattern : String := "\"(?:[^\"\\\\]|\\\\.)*\"(?:(?:[^\"\\\\]|\\\\.)*\")*\"$"

def doublePattern : String := keyPattern ++ doubleValuePattern

def innerPattern : Pattern :=
  .alt (.one (allBut ['\\', '"']))
    (.seq (.one (.single '\\')) (.one (CharSet.single '\n').complement))

def doubleParts : List Pattern :=
  [.one (.single '"'), .times innerPattern 0 none, .one (.single '"'),
    .times (.seq (.times innerPattern 0 none) (.one (.single '"'))) 0 none, .one (.single '"')]

theorem mem_inner_words (word : List Char) :
    word ∈ words innerPattern ↔ ∃ token : Token, token ≠ .quote ∧ word = token.spell := by
  have ascending : CharSet.IsAscending 0 (CharSet.single '\n').ranges :=
    ⟨Nat.zero_le _, Nat.le_refl _, trivial⟩
  have anyButNewline (c : Char) : (CharSet.single '\n').complement.holds c.toNat = true ↔
      c ≠ '\n' := by
    rw [CharSet.complement_holds _ ascending, Bool.not_eq_true', ← Bool.not_eq_true,
      CharSet.single_holds]
  rw [innerPattern, Pattern.words_alt, Language.mem_add, Pattern.words_seq, Language.mem_mul]
  simp only [Pattern.mem_words_single]
  simp only [Pattern.mem_words_one, allBut_holds, anyButNewline, List.mem_cons,
    List.mem_nil_iff, or_false, not_or]
  constructor
  · intro taken
    rcases taken with ⟨c, rfl, other, double⟩ | ⟨_, rfl, _, ⟨c, rfl, other⟩, rfl⟩
    · exact ⟨.plain c other, by simpa [Token.quote] using double, rfl⟩
    · exact ⟨.escaped c other, by simp [Token.quote], rfl⟩
  · intro taken
    rcases taken with ⟨token, notQuote, rfl⟩
    cases token with
    | plain c other => exact .inl ⟨c, rfl, other, by simpa [Token.quote] using notQuote⟩
    | escaped c other => exact .inr ⟨_, rfl, [c], ⟨c, rfl, other⟩, rfl⟩

theorem mem_star_inner (word : List Char) :
    word ∈ (words innerPattern)∗ ↔
      ∃ tokens : List Token, .quote ∉ tokens ∧ word = spelling tokens := by
  rw [Language.mem_kstar]
  constructor
  · intro taken
    rcases taken with ⟨pieces, rfl, each⟩
    induction pieces with
    | nil => exact ⟨[], by simp, rfl⟩
    | cons piece rest ih =>
        rcases (mem_inner_words piece).mp (each piece List.mem_cons_self) with ⟨token, other, rfl⟩
        rcases ih fun word member => each word (List.mem_cons_of_mem _ member) with
          ⟨tokens, free, equal⟩
        refine ⟨token :: tokens, ?_, by rw [List.flatten_cons, equal, spelling_cons]⟩
        simp [free, Ne.symm other]
  · intro taken
    rcases taken with ⟨tokens, free, rfl⟩
    refine ⟨tokens.map Token.spell, List.flatMap_def, ?_⟩
    intro piece member
    rcases List.mem_map.mp member with ⟨token, present, rfl⟩
    exact (mem_inner_words _).mpr ⟨token, fun equal => free (equal ▸ present), rfl⟩

/-- The tokens up to the next quote, and the quote. -/
def stretches : Language Char := (words innerPattern)∗ * words (.one (.single '"'))

theorem mem_stretches (word : List Char) :
    word ∈ stretches ↔
      ∃ tokens : List Token, .quote ∉ tokens ∧ word = spelling (tokens ++ [.quote]) := by
  simp only [stretches, Language.mem_mul, mem_star_inner, Pattern.mem_words_single, spelling_append]
  constructor
  · intro taken
    rcases taken with ⟨_, ⟨tokens, free, rfl⟩, _, rfl, rfl⟩
    exact ⟨tokens, free, rfl⟩
  · intro taken
    rcases taken with ⟨tokens, free, rfl⟩
    exact ⟨_, ⟨tokens, free, rfl⟩, _, rfl, rfl⟩

theorem spelling_mem_stretches (tokens : List Token) :
    spelling (tokens ++ [.quote]) ∈ stretches * stretches∗ := by
  rw [Language.mem_mul]
  -- The first quote ends a stretch, and what follows it is shorter.
  by_cases member : .quote ∈ tokens
  · rcases List.eq_append_cons_of_mem member with ⟨front, back, cut, free⟩
    have shorter : back.length < tokens.length := by
      rw [cut, List.length_append, List.length_cons]
      omega
    have first := (mem_stretches _).mpr ⟨front, free, rfl⟩
    have later : spelling (back ++ [.quote]) ∈ stretches∗ :=
      Set.mem_of_mem_of_subset (spelling_mem_stretches back) (mul_kstar_le_kstar (a := stretches))
    refine ⟨_, first, _, later, ?_⟩
    rw [← spelling_append, cut]
    simp
  · have only := (mem_stretches _).mpr ⟨tokens, member, rfl⟩
    exact ⟨_, only, [], Language.nil_mem_kstar _, List.append_nil _⟩
termination_by tokens.length

theorem mem_some_stretches (word : List Char) :
    word ∈ stretches * stretches∗ ↔
      ∃ tokens : List Token, word = spelling (tokens ++ [.quote]) := by
  constructor
  · intro taken
    rcases Language.mem_mul.mp taken with ⟨_, first, _, later, rfl⟩
    rcases (mem_stretches _).mp first with ⟨front, -, rfl⟩
    rcases Language.mem_kstar.mp later with ⟨pieces, rfl, each⟩
    clear taken first later
    induction pieces generalizing front with
    | nil => exact ⟨front, List.append_nil _⟩
    | cons piece rest ih =>
        rcases (mem_stretches piece).mp (each piece List.mem_cons_self) with ⟨back, -, rfl⟩
        have joined := ih (front ++ [.quote] ++ back) fun word member =>
          each word (List.mem_cons_of_mem _ member)
        rw [List.append_assoc, spelling_append, List.append_assoc] at joined
        exact joined
  · intro spelled
    rcases spelled with ⟨tokens, rfl⟩
    exact spelling_mem_stretches tokens

theorem mem_double_words (value : List Char) :
    value ∈ (doubleParts.map words).prod ↔ IsBadDoubleValue value := by
  have parts : (doubleParts.map words).prod =
      words (.one (.single '"')) * (stretches * stretches∗ * words (.one (.single '"'))) := by
    simp only [doubleParts, stretches, List.map_cons, List.map_nil, List.prod_cons, List.prod_nil,
      Pattern.words_star, Pattern.words_seq, mul_one, mul_assoc]
  rw [parts, isBadDoubleValue_iff]
  constructor
  · intro taken
    rcases Language.mem_mul.mp taken with ⟨_, first, _, later, rfl⟩
    rcases Language.mem_mul.mp later with ⟨_, middle, _, last, rfl⟩
    rw [Pattern.mem_words_single] at first last
    rcases (mem_some_stretches _).mp middle with ⟨tokens, rfl⟩
    rw [first, last]
    refine ⟨tokens ++ [.quote] ++ [.quote], by rw [spelling_append (tokens ++ _)]; rfl, ?_⟩
    rw [List.append_assoc]
    exact List.suffix_append tokens _
  · intro bad
    rcases bad with ⟨_, rfl, tokens, rfl⟩
    have middle := spelling_mem_stretches tokens
    have quote : ['"'] ∈ words (.one (.single '"')) := (Pattern.mem_words_single _ _).mpr rfl
    have whole := Language.append_mem_mul quote (Language.append_mem_mul middle quote)
    rw [List.append_cons, spelling_append]
    exact whole

section Reading

open Pattern (Part branches?)

theorem branches?_inner (fuel : Nat) (rest : List Char) (names : List (List Char))
    (parts branches : List Part) :
    branches? (fuel + 1) ⟨'[' :: '^' :: '"' :: '\\' :: '\\' :: ']' :: rest, .start, names⟩
        parts branches =
      branches? fuel ⟨rest, .start, names⟩
        (⟨.one (allBut ['\\', '"']), 2, false⟩ :: parts) branches := by
  rfl

theorem branches?_double (fuel : Nat) :
    branches? (fuel + 40) ⟨doubleValuePattern.toList, .start, []⟩ keyRead [] =
      some (⟨Pattern.anchored (keyParts ++ doubleParts), 9, false⟩, ⟨[], .start, []⟩) := by
  simp only [doubleValuePattern, String.reduceToList]
  simp (disch := decide) only [branches?_inner, Pattern.branches?_char, Pattern.branches?_open,
    Pattern.group?_unremembered, Pattern.body?_eq, Pattern.branches?_bar,
      Pattern.branches?_backslash,
    Pattern.branches?_dot, Pattern.branches?_close, Pattern.branches?_star,
      Pattern.branches?_textEnd,
    Pattern.branches?_nil, Option.bind_some]
  rfl

theorem double_not_tooLarge : (Pattern.anchored (keyParts ++ doubleParts)).isTooLarge = false := by
  have members : CharSet.unionAll (['\\', '"'].map CharSet.single) = ⟨[(34, 34), (92, 92)]⟩ := by
    simp [CharSet.unionAll, CharSet.ofRanges, CharSet.single, CharSet.span, CharSet.coalesce,
      List.mergeSort, List.MergeSort.Internal.splitInTwo]
  simp only [keyParts, spacingSet_eq, wordSet_eq, keySet_eq, doubleParts, innerPattern, allBut,
    members]
  decide +kernel

theorem read?_doublePattern :
    Pattern.read? doublePattern.toList = some (Pattern.anchored (keyParts ++ doubleParts)) := by
  rw [doublePattern, String.toList_append]
  exact read?_keyed _ '"' (by decide) _ branches?_double (by decide) double_not_tooLarge

end Reading

/-- A text is found badly quoted in double quotes if it has a key and a value whose unescaped quotes
tell it to be so, and these are the texts in which the pattern occurs. -/
theorem double_pattern_language (text : List Char) :
    (isBadDouble text = true ↔ ∃ value, Keyed text value ∧ IsBadDoubleValue value) ∧
    isBadDouble text = (Pattern.read? doublePattern.toList).any (·.occursIn text) := by
  refine ⟨isBadDouble_iff text, ?_⟩
  rw [read?_doublePattern, Option.any_some, Bool.eq_iff_iff, isBadDouble_iff,
    occursIn_keyed _ (by decide)]
  simp only [mem_double_words, and_comm]

end QuoteLint.Scalar
