import QuoteLint.Proofs.Json.Grammar

/-! Printed values are spelled as the grammar says, so that they read back. -/

namespace QuoteLint.Json

section Texts

theorem hexNumber?_control : ∀ n < 0x20,
    Text.hexNumber? ['0', '0', Text.hexDigit (n / 16), Text.hexDigit (n % 16)] = some n := by
  decide

theorem spellsChar_escapeChar (c : Char) : SpellsChar c (escapeChar c) := by
  by_cases short : c ∈ ['"', '\\', '\x08', '\x0c', '\n', '\r', '\t']
  · simp only [List.mem_cons, List.not_mem_nil, or_false] at short
    rcases short with rfl | rfl | rfl | rfl | rfl | rfl | rfl <;> exact .short _ _ (by decide)
  · simp only [List.mem_cons, List.not_mem_nil, or_false, not_or] at short
    by_cases control : c.toNat < 0x20
    · have unit := SpellsChar.unit _ _ _ _ _ (hexNumber?_control c.toNat control) (.inl (by omega))
      rw [Char.ofNat_toNat] at unit
      simpa [escapeChar, short, control] using unit
    · have plain := SpellsChar.plain c (by omega) short.1 short.2.1
      simpa [escapeChar, short, control] using plain

theorem spellsChars_escapeChar (cs : List Char) : SpellsChars cs (cs.flatMap escapeChar) := by
  induction cs with
  | nil => exact .nil
  | cons c rest ih => exact .cons (spellsChar_escapeChar c) ih

end Texts

section Numbers

theorem areDigits_toDigits (n : Nat) : AreDigits (Nat.toDigits 10 n) := by
  intro c member
  exact Nat.isDigit_of_mem_toDigits (by decide) (by decide) member

theorem digitsValue_toDigits (n : Nat) : digitsValue (Nat.toDigits 10 n) = n :=
  Nat.ofDigitChars_ten_toDigits

theorem exists_head_toDigits (n : Nat) (positive : 0 < n) :
    ∃ c later, Nat.toDigits 10 n = c :: later ∧ c ≠ '0' := by
  induction n using Nat.strongRecOn with
  | ind n ih =>
      rw [Nat.toDigits_eq_if (by decide)]
      split
      next small =>
        have nonzero : ∀ d < 10, 0 < d → d.digitChar ≠ '0' := by decide
        exact ⟨n.digitChar, [], rfl, nonzero n small positive⟩
      next large =>
        obtain ⟨c, later, shape, nonzero⟩ := ih (n / 10) (by omega) (by omega)
        exact ⟨c, later ++ [(n % 10).digitChar], by rw [shape]; rfl, nonzero⟩

theorem isWhole_toDigits (n : Nat) : isWhole (Nat.toDigits 10 n) = true := by
  rcases Nat.eq_zero_or_pos n with rfl | positive
  · decide
  · obtain ⟨c, later, shape, nonzero⟩ := exists_head_toDigits n positive
    rw [shape]
    cases later <;> simp [isWhole, nonzero]

theorem value_printInt (n : Int) : Value (.int n) (printInt n) := by
  rw [printInt, Int.toString_eq_repr]
  cases n with
  | ofNat n =>
      have printed := Value.natural (isWhole_toDigits n) (areDigits_toDigits n)
      rw [digitsValue_toDigits, ← Nat.toList_repr] at printed
      exact printed
  | negSucc n =>
      obtain ⟨c, later, shape, nonzero⟩ := exists_head_toDigits (n + 1) (by omega)
      have other : Nat.toDigits 10 (n + 1) ≠ ['0'] := by
        rw [shape]
        simp [nonzero]
      have printed := Value.negative _ (isWhole_toDigits (n + 1)) (areDigits_toDigits (n + 1)) other
      rw [digitsValue_toDigits, ← Nat.toList_repr] at printed
      rw [Int.repr, String.toList_append]
      exact printed

end Numbers

section Values

/-- A value whose fractional numbers, which are held by their spellings, are well spelled. -/
inductive IsPrintable : Json → Prop
  | null : IsPrintable .null
  | bool (value : Bool) : IsPrintable (.bool value)
  | int (value : Int) : IsPrintable (.int value)
  | real (spelling : String) (spelled : Value (.real spelling) spelling.toList) :
      IsPrintable (.real spelling)
  | text (value : String) : IsPrintable (.text value)
  | list (items : List Json) (all : ∀ item ∈ items, IsPrintable item) : IsPrintable (.list items)
  | object (fields : List (String × Json)) (all : ∀ field ∈ fields, IsPrintable field.2) :
      IsPrintable (.object fields)

theorem isBlank_newline (depth : Nat) : IsBlank (newline depth) := by
  intro c member
  simp only [newline, List.mem_cons, List.mem_replicate] at member
  rcases member with rfl | ⟨-, rfl⟩ <;> decide

theorem elements_prettyItems (depth : Nat) (items : List Json) (nonempty : items ≠ [])
    (printed : ∀ item ∈ items, Value item (item.pretty depth)) (after : List Char)
    (blank : IsBlank after) : Elements items (prettyItems depth items ++ after) := by
  induction items with
  | nil => exact absurd rfl nonempty
  | cons item rest ih =>
      have first := printed item List.mem_cons_self
      cases rest with
      | nil => exact .last (.padded _ _ _ (isBlank_newline depth) first blank)
      | cons next rest =>
          have later := ih (List.cons_ne_nil _ _) fun item member =>
            printed item (List.mem_cons_of_mem _ member)
          have element := Element.padded _ _ _ (isBlank_newline depth) first isBlank_nil
          rw [List.append_nil] at element
          rw [prettyItems, List.append_assoc, List.cons_append]
          exact .more _ _ element later

theorem member_quote (depth : Nat) (name : String) {json : Json} {body : List Char}
    (spelled : Value json body) {after : List Char} (blank : IsBlank after) :
    Member (name, json) (newline depth ++ quote name ++ ':' :: ' ' :: body ++ after) := by
  have value := Element.padded [' '] body after (by simp [IsBlank, isSpace]) spelled blank
  have member := Member.named _ _ [] _ (isBlank_newline depth)
    (spellsChars_escapeChar name.toList) isBlank_nil value
  simpa [quote] using member

theorem members_prettyFields (depth : Nat) (fields : List (String × Json))
    (nonempty : fields ≠ []) (printed : ∀ field ∈ fields, Value field.2 (field.2.pretty depth))
    (after : List Char) (blank : IsBlank after) :
    Members fields (prettyFields depth fields ++ after) := by
  induction fields with
  | nil => exact absurd rfl nonempty
  | cons field rest ih =>
      obtain ⟨name, json⟩ := field
      have first : Value json (json.pretty depth) := printed (name, json) List.mem_cons_self
      cases rest with
      | nil => exact .last (member_quote depth name first blank)
      | cons next rest =>
          have later := ih (List.cons_ne_nil _ _) fun field member =>
            printed field (List.mem_cons_of_mem _ member)
          have member := member_quote depth name first isBlank_nil
          rw [List.append_nil] at member
          rw [prettyFields, List.append_assoc, List.cons_append]
          exact .more _ _ member later

theorem value_pretty {json : Json} (printable : IsPrintable json) (depth : Nat) :
    Value json (json.pretty depth) := by
  induction printable generalizing depth with
  | null => exact .null
  | bool value =>
      cases value with
      | false => exact .no
      | true => exact .yes
  | int value => exact value_printInt value
  | real spelling spelled => exact spelled
  | text value => exact .text value _ (spellsChars_escapeChar value.toList)
  | list items all ih =>
      cases items with
      | nil => exact .emptyList [] isBlank_nil
      | cons item rest =>
          exact .list _ _ (elements_prettyItems (depth + 1) _ (List.cons_ne_nil _ _)
            (fun item member => ih item member (depth + 1)) _ (isBlank_newline depth))
  | object fields all ih =>
      cases fields with
      | nil => exact .emptyObject [] isBlank_nil
      | cons field rest =>
          exact .object _ _ (members_prettyFields (depth + 1) _ (List.cons_ne_nil _ _)
            (fun field member => ih field member (depth + 1)) _ (isBlank_newline depth))

end Values

end QuoteLint.Json
