import QuoteLint.Json.Reader

/-! The grammar of JSON as a relation: which texts spell which values. White space may stand around
every element, and most characters of a text can be spelled in more than one way. The reader reads
every spelling, so that no text spells two values. -/

namespace QuoteLint.Json

def IsBlank (cs : List Char) : Prop := ∀ c ∈ cs, isSpace c = true

def AreDigits (cs : List Char) : Prop := ∀ c ∈ cs, c.isDigit = true

def shortEscapes : List (Char × Char) :=
  [('"', '"'), ('\\', '\\'), ('/', '/'), ('b', '\x08'), ('f', '\x0c'), ('n', '\n'), ('r', '\r'),
    ('t', '\t')]

inductive SpellsChar : Char → List Char → Prop
  | plain (c : Char) (visible : 0x20 ≤ c.toNat) (unquoted : c ≠ '"') (unescaped : c ≠ '\\') :
      SpellsChar c [c]
  | short (letter c : Char) (known : (letter, c) ∈ shortEscapes) : SpellsChar c ['\\', letter]
  | unit (n : Nat) (p q r s : Char) (value : Text.hexNumber? [p, q, r, s] = some n)
      (alone : n < 0xD800 ∨ 0xDFFF < n) : SpellsChar (Char.ofNat n) ['\\', 'u', p, q, r, s]
  | pair (high low : Nat) (p q r s t u v w : Char)
      (first : Text.hexNumber? [p, q, r, s] = some high)
      (second : Text.hexNumber? [t, u, v, w] = some low) (isHigh : 0xD800 ≤ high ∧ high < 0xDC00)
      (isLow : 0xDC00 ≤ low ∧ low ≤ 0xDFFF) :
      SpellsChar (Char.ofNat (0x10000 + (high - 0xD800) * 0x400 + (low - 0xDC00)))
        ['\\', 'u', p, q, r, s, '\\', 'u', t, u, v, w]

inductive SpellsChars : List Char → List Char → Prop
  | nil : SpellsChars [] []
  | cons {c : Char} {rest front back : List Char} (first : SpellsChar c front)
      (later : SpellsChars rest back) :
      SpellsChars (c :: rest) (front ++ back)

def IsFraction (cs : List Char) : Prop :=
  cs = [] ∨ ∃ digits, cs = '.' :: digits ∧ digits ≠ [] ∧ AreDigits digits

def IsExponent (cs : List Char) : Prop :=
  cs = [] ∨ ∃ mark sign digits, cs = mark :: sign ++ digits ∧ (mark = 'e' ∨ mark = 'E') ∧
    (sign = [] ∨ sign = ['+'] ∨ sign = ['-']) ∧ digits ≠ [] ∧ AreDigits digits

mutual

inductive Value : Json → List Char → Prop
  | null : Value .null ['n', 'u', 'l', 'l']
  | yes : Value (.bool true) ['t', 'r', 'u', 'e']
  | no : Value (.bool false) ['f', 'a', 'l', 's', 'e']
  | natural {digits : List Char} (whole : isWhole digits = true) (decimal : AreDigits digits) :
      Value (.int (digitsValue digits)) digits
  | negative (digits : List Char) (whole : isWhole digits = true) (decimal : AreDigits digits)
      (nonzero : digits ≠ ['0']) : Value (.int (-digitsValue digits)) ('-' :: digits)
  | real (sign digits fraction exponent : List Char) (signed : sign = [] ∨ sign = ['-'])
      (whole : isWhole digits = true) (decimal : AreDigits digits)
      (isFraction : IsFraction fraction) (isExponent : IsExponent exponent)
      (inexact : fraction ≠ [] ∨ exponent ≠ [] ∨ digits = ['0'] ∧ sign = ['-']) :
      Value (.real (String.ofList (sign ++ digits ++ fraction ++ exponent)))
        (sign ++ digits ++ fraction ++ exponent)
  | text (s : String) (body : List Char) (spelled : SpellsChars s.toList body) :
      Value (.text s) ('"' :: body ++ ['"'])
  | emptyList (gap : List Char) (blank : IsBlank gap) : Value (.list []) ('[' :: gap ++ [']'])
  | list (items : List Json) (body : List Char) (spelled : Elements items body) :
      Value (.list items) ('[' :: body ++ [']'])
  | emptyObject (gap : List Char) (blank : IsBlank gap) : Value (.object []) ('{' :: gap ++ ['}'])
  | object (fields : List (String × Json)) (body : List Char) (spelled : Members fields body) :
      Value (.object fields) ('{' :: body ++ ['}'])

inductive Element : Json → List Char → Prop
  | padded {json : Json} (before body after : List Char) (front : IsBlank before)
      (spelled : Value json body)
      (back : IsBlank after) : Element json (before ++ body ++ after)

inductive Elements : List Json → List Char → Prop
  | last {item : Json} {cs : List Char} (spelled : Element item cs) : Elements [item] cs
  | more {item : Json} {items : List Json} (front back : List Char) (spelled : Element item front)
      (later : Elements items back) : Elements (item :: items) (front ++ ',' :: back)

inductive Member : String × Json → List Char → Prop
  | named {name : String} {json : Json} (before body after rest : List Char)
      (front : IsBlank before)
      (spelled : SpellsChars name.toList body) (back : IsBlank after) (value : Element json rest) :
      Member (name, json) (before ++ '"' :: body ++ '"' :: after ++ ':' :: rest)

inductive Members : List (String × Json) → List Char → Prop
  | last {field : String × Json} {cs : List Char} (spelled : Member field cs) : Members [field] cs
  | more {field : String × Json} {fields : List (String × Json)} (front back : List Char)
      (spelled : Member field front) (later : Members fields back) :
        Members (field :: fields) (front ++ ',' :: back)

end

section Space

theorem isSpace_iff (c : Char) : isSpace c = true ↔ c = ' ' ∨ c = '\t' ∨ c = '\n' ∨ c = '\r' := by
  simp [isSpace, or_assoc]

theorem skipSpace_append {gap : List Char} (blank : IsBlank gap) (cs : List Char) :
    skipSpace (gap ++ cs) = skipSpace cs :=
  List.dropWhile_append_of_pos blank

theorem skipSpace_cons {c : Char} (dark : isSpace c = false) (cs : List Char) :
    skipSpace (c :: cs) = c :: cs := by
  simp [skipSpace, dark]

theorem skipSpace_skipSpace (cs : List Char) : skipSpace (skipSpace cs) = skipSpace cs := by
  induction cs with
  | nil => rfl
  | cons c rest ih =>
      cases space : isSpace c with
      | true =>
          have skipped : skipSpace (c :: rest) = skipSpace rest := by simp [skipSpace, space]
          rw [skipped, ih]
      | false => rw [skipSpace_cons space, skipSpace_cons space]

end Space

section Texts

theorem shortEscape?_of_mem {letter c : Char} (known : (letter, c) ∈ shortEscapes) :
    shortEscape? letter = some c ∧ letter ≠ 'u' := by
  simp only [shortEscapes, List.mem_cons, Prod.mk.injEq, List.not_mem_nil, or_false] at known
  rcases known with
    ⟨rfl, rfl⟩ | ⟨rfl, rfl⟩ | ⟨rfl, rfl⟩ | ⟨rfl, rfl⟩ | ⟨rfl, rfl⟩ | ⟨rfl, rfl⟩ | ⟨rfl, rfl⟩ |
    ⟨rfl, rfl⟩ <;> decide

theorem pieces?_of_spellsChar {c : Char} {front : List Char} (spelled : SpellsChar c front) :
    ∃ pieces : List Piece,
      (∀ cs more rest, pieces? cs = some (more, rest) →
        pieces? (front ++ cs) = some (pieces ++ more, rest)) ∧
        ∀ more, joinPieces? (pieces ++ more) = (joinPieces? more).map (c :: ·) := by
  cases spelled with
  | plain c visible unquoted unescaped =>
      refine ⟨[.plain c], ?_, fun more => by simp [joinPieces?]⟩
      intro cs more rest read
      have shown : ¬ c.toNat < 0x20 := by omega
      simp [pieces?, unescaped, shown, read]
  | short letter c known =>
      obtain ⟨escape, other⟩ := shortEscape?_of_mem known
      refine ⟨[.plain c], ?_, fun more => by simp [joinPieces?]⟩
      intro cs more rest read
      simp [pieces?, escape, other, read]
  | unit n p q r s value alone =>
      refine ⟨[.unit n], ?_, ?_⟩
      · intro cs more rest read
        simp [pieces?, value, read]
      · intro more
        rw [List.singleton_append, joinPieces?.eq_def]
        exact if_pos alone
  | pair high low p q r s t u v w first second isHigh isLow =>
      refine ⟨[.unit high, .unit low], ?_, ?_⟩
      · intro cs more rest read
        simp [pieces?, first, second, read]
      · intro more
        have paired : ¬ (high < 0xD800 ∨ 0xDFFF < high) := by omega
        have joined : high < 0xDC00 ∧ 0xDC00 ≤ low ∧ low ≤ 0xDFFF := ⟨isHigh.2, isLow⟩
        change joinPieces? (.unit high :: .unit low :: more) = _
        rw [joinPieces?.eq_def]
        exact (if_neg paired).trans (if_pos joined)

theorem text?_of_spells {chars body : List Char} (spelled : SpellsChars chars body)
    (rest : List Char) : text? (body ++ '"' :: rest) = some (String.ofList chars, rest) := by
  have read : ∃ pieces, pieces? (body ++ '"' :: rest) = some (pieces, rest) ∧
      joinPieces? pieces = some chars := by
    induction spelled with
    | nil => exact ⟨[], by simp [pieces?], by simp [joinPieces?]⟩
    | cons first later ih =>
        obtain ⟨more, moreRead, moreJoined⟩ := ih
        obtain ⟨pieces, piecesRead, piecesJoined⟩ := pieces?_of_spellsChar first
        refine ⟨pieces ++ more, ?_, ?_⟩
        · rw [List.append_assoc]
          exact piecesRead _ _ _ moreRead
        · rw [piecesJoined, moreJoined]
          rfl
  obtain ⟨pieces, piecesRead, joined⟩ := read
  simp [text?, piecesRead, joined]

end Texts

section Numbers

def EndsNumber (rest : List Char) : Prop :=
  ∀ c ∈ rest.head?, c.isDigit = false ∧ c ≠ '.' ∧ c ≠ 'e' ∧ c ≠ 'E'

theorem endsNumber_nil : EndsNumber [] := by simp [EndsNumber]

theorem endsNumber_cons {c : Char} {rest : List Char}
    (other : c.isDigit = false ∧ c ≠ '.' ∧ c ≠ 'e' ∧ c ≠ 'E') : EndsNumber (c :: rest) := by
  simpa [EndsNumber] using other

theorem endsNumber_append {gap rest : List Char} (blank : IsBlank gap) (ends : EndsNumber rest) :
    EndsNumber (gap ++ rest) := by
  cases gap with
  | nil => exact ends
  | cons c later =>
      have space := (isSpace_iff c).mp (blank c List.mem_cons_self)
      apply endsNumber_cons
      rcases space with rfl | rfl | rfl | rfl <;> decide

theorem splitDigits_append {digits rest : List Char} (decimal : AreDigits digits)
    (stop : ∀ c ∈ rest.head?, c.isDigit = false) :
    splitDigits (digits ++ rest) = (digits, rest) := by
  have none : rest.takeWhile Char.isDigit = [] ∧ rest.dropWhile Char.isDigit = rest := by
    cases rest with
    | nil => exact ⟨rfl, rfl⟩
    | cons c later =>
        have other : c.isDigit = false := stop c rfl
        simp [other]
  rw [splitDigits, List.takeWhile_append_of_pos decimal, List.dropWhile_append_of_pos decimal,
    none.1, none.2, List.append_nil]

theorem exists_digit_of_areDigits {digits : List Char} (nonempty : digits ≠ [])
    (decimal : AreDigits digits) :
    ∃ c later, digits = c :: later ∧ c.isDigit = true ∧ c ≠ '+' ∧ c ≠ '-' := by
  obtain ⟨c, later, rfl⟩ := List.exists_cons_of_ne_nil nonempty
  have digit : c.isDigit = true := decimal c List.mem_cons_self
  refine ⟨c, later, rfl, digit, ?_, ?_⟩
  · rintro rfl
    exact absurd digit (by decide)
  · rintro rfl
    exact absurd digit (by decide)

theorem ne_nil_of_isWhole {digits : List Char} (whole : isWhole digits = true) : digits ≠ [] := by
  rintro rfl
  cases whole

theorem fraction?_append {fraction rest : List Char} (isFraction : IsFraction fraction)
    (stop : ∀ c ∈ rest.head?, c.isDigit = false ∧ c ≠ '.') :
    fraction? (fraction ++ rest) = some (fraction, rest) := by
  rcases isFraction with rfl | ⟨digits, rfl, nonempty, decimal⟩
  · cases rest with
    | nil => rfl
    | cons c later =>
        have other : c ≠ '.' := (stop c rfl).2
        simp [fraction?, other]
  · have split := splitDigits_append decimal fun c first => (stop c first).1
    simp [fraction?, split, nonempty]

theorem exponent?_append {exponent rest : List Char} (isExponent : IsExponent exponent)
    (ends : EndsNumber rest) : exponent? (exponent ++ rest) = some (exponent, rest) := by
  rcases isExponent with rfl | ⟨mark, sign, digits, rfl, isMark, isSign, nonempty, decimal⟩
  · cases rest with
    | nil => rfl
    | cons c later =>
        obtain ⟨-, -, small, large⟩ := ends c rfl
        simp [exponent?, small, large]
  · have split := splitDigits_append decimal fun c first => (ends c first).1
    have signs : (sign ++ (digits ++ rest)).takeWhile (fun c => c == '+' || c == '-') = sign := by
      obtain ⟨c, later, rfl, -, plus, minus⟩ := exists_digit_of_areDigits nonempty decimal
      rcases isSign with rfl | rfl | rfl <;> simp [plus, minus]
    have short : ¬ 1 < sign.length := by
      rcases isSign with rfl | rfl | rfl <;> decide
    simp [exponent?, isMark, signs, split, nonempty, short]

def numberValue (sign digits fraction exponent : List Char) : Json :=
  if fraction.isEmpty && exponent.isEmpty && !(digits == ['0'] && sign == ['-']) then
    .int (if sign.isEmpty then digitsValue digits else -digitsValue digits)
  else .real (String.ofList (sign ++ digits ++ fraction ++ exponent))

theorem numberValue_of_inexact {sign digits fraction exponent : List Char}
    (inexact : fraction ≠ [] ∨ exponent ≠ [] ∨ digits = ['0'] ∧ sign = ['-']) :
    numberValue sign digits fraction exponent =
      .real (String.ofList (sign ++ digits ++ fraction ++ exponent)) := by
  apply if_neg
  simp only [Bool.and_eq_true, List.isEmpty_iff, Bool.not_eq_true', Bool.and_eq_false_iff,
    beq_eq_false_iff_ne]
  rintro ⟨⟨noFraction, noExponent⟩, other⟩
  rcases inexact with some | some | ⟨zero, minus⟩
  · exact some noFraction
  · exact some noExponent
  · rcases other with other | other
    · exact other zero
    · exact other minus

theorem number?_append {sign digits fraction exponent rest : List Char}
    (signed : sign = [] ∨ sign = ['-']) (whole : isWhole digits = true)
    (decimal : AreDigits digits) (isFraction : IsFraction fraction)
    (isExponent : IsExponent exponent) (ends : EndsNumber rest) :
    number? (sign ++ digits ++ fraction ++ exponent ++ rest) =
      some (numberValue sign digits fraction exponent, rest) := by
  have afterFraction : ∀ c ∈ (exponent ++ rest).head?, c.isDigit = false ∧ c ≠ '.' := by
    rcases isExponent with rfl | ⟨mark, _, _, rfl, isMark, -, -, -⟩
    · intro c first
      exact ⟨(ends c first).1, (ends c first).2.1⟩
    · intro c first
      cases first
      rcases isMark with rfl | rfl <;> decide
  have afterDigits : ∀ c ∈ (fraction ++ (exponent ++ rest)).head?, c.isDigit = false := by
    rcases isFraction with rfl | ⟨_, rfl, -, -⟩
    · intro c first
      exact (afterFraction c first).1
    · intro c first
      cases first
      decide
  have split := splitDigits_append decimal afterDigits
  have front : (sign ++ (digits ++ (fraction ++ (exponent ++ rest)))).take
      (if (sign ++ (digits ++ (fraction ++ (exponent ++ rest)))).head? = some '-' then 1 else 0) =
        sign := by
    obtain ⟨c, later, rfl, -, -, minus⟩ :=
      exists_digit_of_areDigits (ne_nil_of_isWhole whole) decimal
    rcases signed with rfl | rfl <;> simp [minus]
  simp only [number?, numberValue, List.append_assoc, front, List.drop_left, split, whole,
    Bool.not_true, Bool.false_eq_true, if_false, fraction?_append isFraction afterFraction,
    exponent?_append isExponent ends, Option.bind_eq_bind, Option.bind_some]
  split <;> rfl

end Numbers

section Values

theorem exists_head_of_number {sign digits : List Char} (signed : sign = [] ∨ sign = ['-'])
    (whole : isWhole digits = true) (decimal : AreDigits digits) (tail : List Char) :
    ∃ c later, sign ++ digits ++ tail = c :: later ∧ (c = '-' ∨ c.isDigit = true) := by
  rcases signed with rfl | rfl
  · obtain ⟨c, later, rfl, digit, -, -⟩ :=
      exists_digit_of_areDigits (ne_nil_of_isWhole whole) decimal
    exact ⟨c, later ++ tail, rfl, .inr digit⟩
  · exact ⟨'-', digits ++ tail, rfl, .inl rfl⟩

theorem isSpace_of_startsNumber {c : Char} (start : c = '-' ∨ c.isDigit = true) :
    isSpace c = false := by
  apply Bool.eq_false_iff.mpr
  intro space
  rcases (isSpace_iff c).mp space with rfl | rfl | rfl | rfl <;> exact absurd start (by decide)

/-- A value starts with a character that neither is skipped nor closes a list. -/
theorem exists_head_of_value {json : Json} {cs : List Char} (spelled : Value json cs) :
    ∃ c later, cs = c :: later ∧ isSpace c = false ∧ c ≠ ']' := by
  have numberHead (sign digits tail : List Char) (signed : sign = [] ∨ sign = ['-'])
      (whole : isWhole digits = true) (decimal : AreDigits digits) :
      ∃ c later, sign ++ digits ++ tail = c :: later ∧ isSpace c = false ∧ c ≠ ']' := by
    obtain ⟨c, later, shape, start⟩ := exists_head_of_number signed whole decimal tail
    refine ⟨c, later, shape, isSpace_of_startsNumber start, ?_⟩
    rintro rfl
    exact absurd start (by decide)
  cases spelled with
  | null => exact ⟨_, _, rfl, by decide⟩
  | yes => exact ⟨_, _, rfl, by decide⟩
  | no => exact ⟨_, _, rfl, by decide⟩
  | natural whole decimal => simpa using numberHead [] cs [] (.inl rfl) whole decimal
  | negative digits whole decimal => exact ⟨_, _, rfl, by decide⟩
  | real sign digits fraction exponent signed whole decimal =>
      simpa using numberHead sign digits (fraction ++ exponent) signed whole decimal
  | text => exact ⟨_, _, rfl, by decide⟩
  | emptyList => exact ⟨_, _, rfl, by decide⟩
  | list => exact ⟨_, _, rfl, by decide⟩
  | emptyObject => exact ⟨_, _, rfl, by decide⟩
  | object => exact ⟨_, _, rfl, by decide⟩

theorem skipSpace_element {json : Json} {cs : List Char} (spelled : Element json cs)
    (tail : List Char) : ∃ c later, skipSpace (cs ++ tail) = c :: later ∧ c ≠ ']' := by
  cases spelled with
  | padded before body after front spelled back =>
      obtain ⟨c, later, rfl, dark, other⟩ := exists_head_of_value spelled
      refine ⟨c, later ++ (after ++ tail), ?_, other⟩
      rw [List.append_assoc, List.append_assoc, skipSpace_append front]
      exact skipSpace_cons dark _

theorem skipSpace_elements {items : List Json} {cs : List Char} (spelled : Elements items cs)
    (tail : List Char) : ∃ c later, skipSpace (cs ++ tail) = c :: later ∧ c ≠ ']' := by
  cases spelled with
  | last first => exact skipSpace_element first tail
  | more front back first later =>
      rw [List.append_assoc]
      exact skipSpace_element first _

theorem skipSpace_member {field : String × Json} {cs : List Char} (spelled : Member field cs)
    (tail : List Char) : ∃ later, skipSpace (cs ++ tail) = '"' :: later := by
  cases spelled with
  | named before body after rest front spelled back value =>
      refine ⟨body ++ '"' :: (after ++ ':' :: (rest ++ tail)), ?_⟩
      simp only [List.append_assoc, List.cons_append]
      rw [skipSpace_append front]
      exact skipSpace_cons (by decide) _

theorem skipSpace_members {fields : List (String × Json)} {cs : List Char}
    (spelled : Members fields cs) (tail : List Char) :
    ∃ later, skipSpace (cs ++ tail) = '"' :: later := by
  cases spelled with
  | last first => exact skipSpace_member first tail
  | more front back first later =>
      rw [List.append_assoc]
      exact skipSpace_member first _

theorem value?_blank (fuel : Nat) {gap : List Char} (blank : IsBlank gap) (cs : List Char) :
    value? fuel (gap ++ cs) = value? fuel cs := by
  cases fuel with
  | zero => simp [value?]
  | succ fuel => rw [value?, value?, skipSpace_append blank]

theorem items?_skipSpace (fuel : Nat) (cs : List Char) :
    items? fuel (skipSpace cs) = items? fuel cs := by
  have first (fuel : Nat) : value? fuel (skipSpace cs) = value? fuel cs := by
    cases fuel with
    | zero => simp [value?]
    | succ fuel => rw [value?, value?, skipSpace_skipSpace]
  cases fuel with
  | zero => simp [items?]
  | succ fuel => rw [items?, items?, first]

theorem fields?_skipSpace (fuel : Nat) (cs : List Char) :
    fields? fuel (skipSpace cs) = fields? fuel cs := by
  cases fuel with
  | zero => simp [fields?]
  | succ fuel => rw [fields?, fields?, skipSpace_skipSpace]

theorem value?_number (fuel : Nat) {c : Char} (cs : List Char)
    (start : c = '-' ∨ c.isDigit = true) : value? (fuel + 1) (c :: cs) = number? (c :: cs) := by
  rw [value?, skipSpace_cons (isSpace_of_startsNumber start)]
  split
  case h_7 => rfl
  -- Every other form starts with a letter, a quote or a bracket.
  all_goals
    rename_i same
    cases same
    exact absurd start (by decide)

theorem value?_parts (fuel : Nat) {sign digits fraction exponent rest : List Char}
    (signed : sign = [] ∨ sign = ['-']) (whole : isWhole digits = true) (decimal : AreDigits digits)
    (isFraction : IsFraction fraction) (isExponent : IsExponent exponent) (ends : EndsNumber rest) :
    value? (fuel + 1) (sign ++ digits ++ fraction ++ exponent ++ rest) =
      some (numberValue sign digits fraction exponent, rest) := by
  obtain ⟨c, later, shape, start⟩ :=
    exists_head_of_number signed whole decimal (fraction ++ exponent ++ rest)
  have joined : sign ++ digits ++ fraction ++ exponent ++ rest = c :: later := by
    rw [← shape]
    simp
  have read := number?_append signed whole decimal isFraction isExponent ends
  rw [joined] at read ⊢
  rw [value?_number fuel later start, read]

theorem value?_list (fuel : Nat) {c : Char} {cs rest : List Char}
    (inside : skipSpace rest = c :: cs)
    (item : c ≠ ']') :
    value? (fuel + 1) ('[' :: rest) = (items? fuel rest).map fun (items, rest) =>
      (.list items, rest) := by
  simp [value?, skipSpace_cons, isSpace, inside, item, ← items?_skipSpace fuel rest]

theorem value?_object (fuel : Nat) {c : Char} {cs rest : List Char}
    (inside : skipSpace rest = c :: cs)
    (field : c ≠ '}') :
    value? (fuel + 1) ('{' :: rest) = (fields? fuel rest).map fun (fields, rest) =>
      (.object fields, rest) := by
  simp [value?, skipSpace_cons, isSpace, inside, field, ← fields?_skipSpace fuel rest]

/-- This much fuel is enough for every value whose text is no longer than half of it. -/
def ReadsValues (fuel : Nat) : Prop :=
  ∀ json cs rest, Value json cs → 2 * cs.length ≤ fuel → EndsNumber rest →
    value? fuel (cs ++ rest) = some (json, rest)

def ReadsElements (fuel : Nat) : Prop :=
  ∀ items cs rest, Elements items cs → 2 * cs.length + 1 ≤ fuel →
    items? fuel (cs ++ ']' :: rest) = some (items, rest)

def ReadsMembers (fuel : Nat) : Prop :=
  ∀ fields cs rest, Members fields cs → 2 * cs.length + 1 ≤ fuel →
    fields? fuel (cs ++ '}' :: rest) = some (fields, rest)

theorem readsValues_succ {fuel : Nat} (lists : ReadsElements fuel) (objects : ReadsMembers fuel) :
    ReadsValues (fuel + 1) := by
  intro json cs rest spelled enough ends
  cases spelled with
  | null => rfl
  | yes => rfl
  | no => rfl
  | natural whole decimal =>
      have read := value?_parts fuel (.inl rfl) whole decimal (.inl rfl) (.inl rfl) ends
      simpa [numberValue] using read
  | negative digits whole decimal nonzero =>
      have read := value?_parts fuel (.inr rfl) whole decimal (.inl rfl) (.inl rfl) ends
      simpa [numberValue, nonzero] using read
  | real sign digits fraction exponent signed whole decimal isFraction isExponent inexact =>
      rw [value?_parts fuel signed whole decimal isFraction isExponent ends,
        numberValue_of_inexact inexact]
  | text s body spelled =>
      have read := text?_of_spells spelled rest
      rw [String.ofList_toList] at read
      rw [List.cons_append, List.cons_append, List.append_assoc, List.singleton_append, value?,
        skipSpace_cons (by decide)]
      simp only [read, Option.map_some]
  | emptyList gap blank =>
      have close : skipSpace (gap ++ ']' :: rest) = ']' :: rest := by
        rw [skipSpace_append blank, skipSpace_cons (by decide)]
      simp [value?, skipSpace_cons, isSpace, close]
  | list items body spelled =>
      obtain ⟨c, later, inside, item⟩ := skipSpace_elements spelled (']' :: rest)
      have read := lists items body rest spelled (by simp at enough; omega)
      rw [List.append_assoc, List.singleton_append, List.cons_append, value?_list fuel inside item,
        read]
      rfl
  | emptyObject gap blank =>
      have close : skipSpace (gap ++ '}' :: rest) = '}' :: rest := by
        rw [skipSpace_append blank, skipSpace_cons (by decide)]
      simp [value?, skipSpace_cons, isSpace, close]
  | object fields body spelled =>
      obtain ⟨later, inside⟩ := skipSpace_members spelled ('}' :: rest)
      have read := objects fields body rest spelled (by simp at enough; omega)
      rw [List.append_assoc, List.singleton_append, List.cons_append,
        value?_object fuel inside (by decide), read]
      rfl

theorem value?_element {fuel : Nat} (values : ReadsValues fuel) {json : Json} {cs : List Char}
    (spelled : Element json cs) (enough : 2 * cs.length ≤ fuel) (tail : List Char)
    (ends : EndsNumber tail) (dark : skipSpace tail = tail) :
    ∃ rest, value? fuel (cs ++ tail) = some (json, rest) ∧ skipSpace rest = tail := by
  cases spelled with
  | padded before body after front spelled back =>
      refine ⟨after ++ tail, ?_, ?_⟩
      · rw [List.append_assoc, List.append_assoc, value?_blank fuel front]
        apply values json body (after ++ tail) spelled
        · simp only [List.length_append] at enough
          omega
        · exact endsNumber_append back ends
      · rw [skipSpace_append back, dark]

theorem readsElements_succ {fuel : Nat} (values : ReadsValues fuel) (lists : ReadsElements fuel) :
    ReadsElements (fuel + 1) := by
  intro items cs rest spelled enough
  cases spelled with
  | last first =>
      obtain ⟨left, read, close⟩ := value?_element values first (by omega) (']' :: rest)
        (endsNumber_cons (by decide)) (skipSpace_cons (by decide) _)
      simp [items?, read, close]
  | more front back first later =>
      simp only [List.length_append, List.length_cons] at enough
      obtain ⟨left, read, comma⟩ :=
        value?_element values first (by omega) (',' :: (back ++ ']' :: rest))
        (endsNumber_cons (by decide)) (skipSpace_cons (by decide) _)
      have readLater := lists _ back rest later (by omega)
      simp [items?, read, comma, readLater]

theorem steps_of_member {fuel : Nat} (values : ReadsValues fuel) {field : String × Json}
    {cs : List Char} (spelled : Member field cs) (enough : 2 * cs.length ≤ fuel)
    (tail : List Char) (ends : EndsNumber tail) (dark : skipSpace tail = tail) :
    ∃ inside colon value rest, skipSpace (cs ++ tail) = '"' :: inside ∧
      text? inside = some (field.1, colon) ∧
      skipSpace colon = ':' :: value ∧ value? fuel value = some (field.2, rest) ∧
        skipSpace rest = tail := by
  cases spelled with
  | named before body after rest front spelled back value =>
      simp only [List.length_append, List.length_cons] at enough
      obtain ⟨left, read, done⟩ := value?_element values value (by omega) tail ends dark
      have readName := text?_of_spells spelled (after ++ ':' :: (rest ++ tail))
      rw [String.ofList_toList] at readName
      refine ⟨_, _, _, left, ?_, readName, ?_, read, done⟩
      · simp only [List.append_assoc, List.cons_append]
        rw [skipSpace_append front, skipSpace_cons (by decide)]
      · rw [skipSpace_append back, skipSpace_cons (by decide)]

theorem readsMembers_succ {fuel : Nat} (values : ReadsValues fuel) (objects : ReadsMembers fuel) :
    ReadsMembers (fuel + 1) := by
  intro fields cs rest spelled enough
  cases spelled with
  | last first =>
      obtain ⟨inside, colon, value, left, start, name, sign, read, brace⟩ :=
        steps_of_member values first (by omega)
        ('}' :: rest) (endsNumber_cons (by decide)) (skipSpace_cons (by decide) _)
      simp [fields?, start, name, sign, read, brace]
  | more front back first later =>
      simp only [List.length_append, List.length_cons] at enough
      obtain ⟨inside, colon, value, left, start, name, sign, read, comma⟩ :=
        steps_of_member values first (by omega)
        (',' :: (back ++ '}' :: rest)) (endsNumber_cons (by decide)) (skipSpace_cons (by decide) _)
      have readLater := objects _ back rest later (by omega)
      simp [fields?, start, name, sign, read, comma, readLater]

theorem reads (fuel : Nat) : ReadsValues fuel ∧ ReadsElements fuel ∧ ReadsMembers fuel := by
  induction fuel with
  | zero =>
      refine ⟨?_, ?_, ?_⟩
      · intro json cs rest spelled enough
        obtain ⟨c, later, rfl, -, -⟩ := exists_head_of_value spelled
        simp at enough
      · intro items cs rest spelled enough
        omega
      · intro fields cs rest spelled enough
        omega
  | succ fuel ih =>
      obtain ⟨values, lists, objects⟩ := ih
      exact ⟨readsValues_succ lists objects, readsElements_succ values lists,
        readsMembers_succ values objects⟩

/-- The reader reads whatever the grammar spells. -/
theorem read?_of_element {json : Json} {cs : List Char} (spelled : Element json cs) :
    read? cs = some json := by
  obtain ⟨rest, read, done⟩ :=
    value?_element (reads (2 * cs.length + 2)).1 spelled (by omega) [] endsNumber_nil rfl
  rw [List.append_nil] at read
  simp [read?, read, done]

theorem isBlank_nil : IsBlank [] := by simp [IsBlank]

theorem value_unique {json other : Json} {cs : List Char} (spelled : Value json cs)
    (otherSpelled : Value other cs) : json = other := by
  have read := read?_of_element (.padded [] cs [] isBlank_nil spelled isBlank_nil)
  have otherRead := read?_of_element (.padded [] cs [] isBlank_nil otherSpelled isBlank_nil)
  rw [read, Option.some.injEq] at otherRead
  exact otherRead

end Values

end QuoteLint.Json
