import QuoteLint.Proofs.Pattern.Places
import QuoteLint.Proofs.Text.CharSet
import Mathlib.Computability.Language

/-! The words of a pattern. A pattern that asks for no condition on places is described by a
language, with the operations of Kleene algebra for its parts. One that is bound to both ends of the
text by such conditions, and holds no other, occurs in exactly the texts that are its words. -/

namespace QuoteLint.Pattern

open scoped Computability

/-- The words that a pattern takes, where conditions on places are left out. -/
def words : Pattern → Language Char
  | .empty => 1
  | .one chars => {word | ∃ c, word = [c] ∧ chars.holds c.toNat = true}
  | .edge _ => 1
  | .seq first second => words first * words second
  | .alt first second => words first + words second
  | .times body least most =>
    {word | ∃ count, least ≤ count ∧ (∀ top ∈ most, count ≤ max least top) ∧
      word ∈ words body ^ count}
  | .group body => words body

def isPlain : Pattern → Bool
  | .empty => true
  | .one _ => true
  | .edge _ => false
  | .seq first second => first.isPlain && second.isPlain
  | .alt first second => first.isPlain && second.isPlain
  | .times body _ _ => body.isPlain
  | .group body => body.isPlain

theorem mem_words_one (chars : Text.CharSet) (word : List Char) :
    word ∈ words (.one chars) ↔ ∃ c, word = [c] ∧ chars.holds c.toNat = true := Iff.rfl

theorem mem_words_single (d : Char) (word : List Char) :
    word ∈ words (.one (.single d)) ↔ word = [d] := by
  simp only [mem_words_one, Text.CharSet.single_holds]
  constructor
  · rintro ⟨c, rfl, rfl⟩
    rfl
  · rintro rfl
    exact ⟨d, rfl, rfl⟩

theorem words_seq (first second : Pattern) :
    words (.seq first second) = words first * words second := rfl

theorem words_alt (first second : Pattern) :
    words (.alt first second) = words first + words second := rfl

theorem words_group (body : Pattern) : words (.group body) = words body := rfl

theorem words_star (body : Pattern) : words (.times body 0 none) = (words body)∗ := by
  ext word
  rw [Language.kstar_eq_iSup_pow, Language.mem_iSup]
  constructor
  · rintro ⟨count, -, -, member⟩
    exact ⟨count, member⟩
  · rintro ⟨count, member⟩
    exact ⟨count, by omega, by simp, member⟩

theorem mem_star_one (chars : Text.CharSet) (word : List Char) :
    word ∈ (words (.one chars))∗ ↔ ∀ c ∈ word, chars.holds c.toNat = true := by
  rw [Language.mem_kstar]
  constructor
  · rintro ⟨pieces, rfl, each⟩ c member
    obtain ⟨piece, present, inside⟩ := List.mem_flatten.mp member
    obtain ⟨d, rfl, held⟩ := each piece present
    rw [List.mem_singleton.mp inside]
    exact held
  · intro each
    refine ⟨word.map fun c => [c], by rw [← List.flatMap_def, List.flatMap_singleton'], ?_⟩
    intro piece member
    obtain ⟨c, present, rfl⟩ := List.mem_map.mp member
    exact ⟨c, rfl, each c present⟩

/-- A word of the language stands between two places of the text. -/
def Takes (text : List Char) (language : Language Char) (i j : Nat) : Prop :=
  ∃ word ∈ language, text.drop i = word ++ text.drop j ∧ j = i + word.length

section Takes

variable (text : List Char)

theorem drop_of_append (i : Nat) (word rest : List Char) (split : text.drop i = word ++ rest) :
    text.drop (i + word.length) = rest := by
  rw [← List.drop_drop, split, List.drop_left]

theorem takes_one (i j : Nat) : Takes text 1 i j ↔ i = j := by
  constructor
  · rintro ⟨word, empty, -, place⟩
    rw [(Language.mem_one word).mp empty] at place
    exact place.symm
  · rintro rfl
    exact ⟨[], Language.nil_mem_one, rfl, rfl⟩

theorem takes_mul (first second : Language Char) (i k : Nat) :
    Takes text (first * second) i k ↔ ∃ j, Takes text first i j ∧ Takes text second j k := by
  constructor
  · rintro ⟨word, member, split, place⟩
    obtain ⟨left, before, right, after, rfl⟩ := Language.mem_mul.mp member
    rw [List.append_assoc] at split
    have middle := drop_of_append text i left _ split
    refine ⟨i + left.length, ⟨left, before, by rw [middle, split], rfl⟩, right, after, middle, ?_⟩
    rw [place, List.length_append, Nat.add_assoc]
  · rintro ⟨j, ⟨left, before, front, rfl⟩, right, after, back, rfl⟩
    refine ⟨left ++ right, Language.append_mem_mul before after, ?_, ?_⟩
    · rw [front, back, List.append_assoc]
    · rw [List.length_append, Nat.add_assoc]

theorem takes_add (first second : Language Char) (i j : Nat) :
    Takes text (first + second) i j ↔ Takes text first i j ∨ Takes text second i j := by
  simp only [Takes, Language.mem_add, or_and_right, exists_or]

theorem takes_pow (language : Language Char) (count i j : Nat) :
    Takes text (language ^ count) i j ↔ Repeated (Takes text language) count i j := by
  induction count generalizing i with
  | zero => rw [pow_zero, takes_one, Repeated]
  | succ count ih => simp only [pow_succ', takes_mul, ih, Repeated]

theorem leads_one (chars : Text.CharSet) (i j : Nat) :
    Leads text (.one chars) i j ↔ Takes text (words (.one chars)) i j := by
  constructor
  · rintro ⟨c, found, held, rfl⟩
    refine ⟨[c], ⟨c, rfl, held⟩, ?_, rfl⟩
    obtain ⟨bound, rfl⟩ := List.getElem?_eq_some_iff.mp found
    exact List.drop_eq_getElem_cons bound
  · rintro ⟨word, ⟨c, rfl, held⟩, split, rfl⟩
    refine ⟨c, ?_, held, rfl⟩
    rw [← List.head?_drop, split]
    rfl

theorem leads_eq_takes (pattern : Pattern) (plain : pattern.isPlain = true) :
    Leads text pattern = Takes text (words pattern) := by
  induction pattern with
  | empty =>
      funext i j
      exact propext (takes_one text i j).symm
  | one chars =>
      funext i j
      exact propext (leads_one text chars i j)
  | edge condition => cases plain
  | seq first second front back =>
      obtain ⟨left, right⟩ := (Bool.and_eq_true _ _).mp plain
      funext i j
      rw [Leads, words, takes_mul, front left, back right]
  | alt first second front back =>
      obtain ⟨left, right⟩ := (Bool.and_eq_true _ _).mp plain
      funext i j
      rw [Leads, words, takes_add, front left, back right]
  | times body least most ih =>
      funext i j
      apply propext
      simp only [Leads, ih plain, ← takes_pow]
      constructor
      · rintro ⟨count, low, high, word, member, split, place⟩
        exact ⟨word, ⟨count, low, high, member⟩, split, place⟩
      · rintro ⟨word, ⟨count, low, high, member⟩, split, place⟩
        exact ⟨count, low, high, word, member, split, place⟩
  | group body ih => exact ih plain

end Takes

def anchored (parts : List Pattern) : Pattern :=
  .seq (.edge .textStart) (parts.foldr .seq (.edge .textEnd))

theorem leads_to_end (text : List Char) (parts : List Pattern)
    (plain : ∀ part ∈ parts, part.isPlain = true) (i j : Nat) :
    Leads text (parts.foldr .seq (.edge .textEnd)) i j ↔
      i ≤ text.length ∧ text.drop i ∈ (parts.map words).prod ∧ j = text.length := by
  induction parts generalizing i with
  | nil =>
      simp only [List.foldr_nil, Leads, Edge.holds, Option.isNone_iff_eq_none,
        List.getElem?_eq_none_iff, List.map_nil, List.prod_nil, Language.mem_one,
        List.drop_eq_nil_iff]
      constructor
      · rintro ⟨low, high, rfl⟩
        exact ⟨low, high, Nat.le_antisymm low high⟩
      · rintro ⟨low, high, rfl⟩
        exact ⟨low, high, Nat.le_antisymm low high⟩
  | cons part rest ih =>
      have first := leads_eq_takes text part (plain part List.mem_cons_self)
      have later := ih fun other member => plain other (List.mem_cons_of_mem part member)
      simp only [List.foldr_cons, Leads, first, later, List.map_cons, List.prod_cons,
        Language.mem_mul]
      constructor
      · rintro ⟨k, ⟨word, member, split, rfl⟩, bound, others, rfl⟩
        exact ⟨by omega, ⟨word, member, _, others, split.symm⟩, rfl⟩
      · rintro ⟨bound, ⟨word, member, others, remaining, joined⟩, rfl⟩
        have split : text.drop i = word ++ others := joined.symm
        have tail := drop_of_append text i word others split
        have size := congrArg List.length split
        rw [List.length_drop, List.length_append] at size
        refine ⟨i + word.length, ⟨word, member, ?_, rfl⟩, by omega, ?_, rfl⟩
        · rw [tail, split]
        · rw [tail]
          exact remaining

/-- A pattern between the two ends of the text occurs in its words and in no other text. -/
theorem occursIn_anchored (parts : List Pattern) (plain : ∀ part ∈ parts, part.isPlain = true)
    (text : List Char) : (anchored parts).occursIn text = true ↔ text ∈ (parts.map words).prod := by
  have begins (i k : Nat) : Leads text (.edge .textStart) i k ↔ i = 0 ∧ k = 0 := by
    simp only [Leads, Edge.holds, charBefore?, Option.isNone_iff_eq_none]
    constructor
    · rintro ⟨bound, start, rfl⟩
      by_cases zero : i = 0
      · exact ⟨zero, zero⟩
      · rw [if_neg zero, List.getElem?_eq_none_iff] at start
        omega
    · rintro ⟨rfl, rfl⟩
      exact ⟨by omega, rfl, rfl⟩
  simp only [occursIn_iff, anchored, leads_seq, begins, leads_to_end text parts plain]
  constructor
  · rintro ⟨i, j, -, k, ⟨-, rfl⟩, -, member, -⟩
    exact member
  · intro member
    exact ⟨0, text.length, by omega, 0, ⟨rfl, rfl⟩, by omega, member, rfl⟩

end QuoteLint.Pattern
