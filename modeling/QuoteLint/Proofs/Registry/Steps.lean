import QuoteLint.Registry
import QuoteLint.Proofs.NameMap
import QuoteLint.Proofs.Text.ByteOrder

/-! What one operation does to a registry, and what the lists of a registry hold. -/

namespace QuoteLint.Registry

theorem ext_parts {a b : Registry} (rules : a.rules = b.rules)
    (disabled : a.disabled = b.disabled) : a = b := by
  cases a
  cases b
  congr

section Steps

variable (registry : Registry) (id : String)

theorem contains_eq : registry.rules.contains id = (registry.get? id).isSome := rfl

@[simp]
theorem get?_empty : empty.get? id = none := rfl

@[simp]
theorem get?_add (rule : Rule) :
    (registry.add rule).get? id = if id = rule.id then some rule else registry.get? id :=
  NameMap.find?_insert registry.rules rule.id rule id

@[simp]
theorem add_disabled (rule : Rule) : (registry.add rule).disabled = registry.disabled := rfl

theorem disable_rules : (registry.disable id).2.rules = registry.rules := by
  unfold disable
  split
  · split <;> rfl
  · rfl

theorem mem_disable (other : String) :
    other ∈ (registry.disable id).2.disabled ↔
      other ∈ registry.disabled ∨ (other = id ∧ registry.rules.contains id = true) := by
  unfold disable
  split
  · next known =>
      split
      · next already =>
          have member : id ∈ registry.disabled := by simpa using already
          constructor
          · exact Or.inl
          · rintro (before | ⟨rfl, -⟩)
            · exact before
            · exact member
      · simp [known, or_comm]
  · next unknown => simp [unknown]

theorem enable_rules : (registry.enable id).2.rules = registry.rules := by
  unfold enable
  split <;> rfl

theorem mem_enable (other : String) :
    other ∈ (registry.enable id).2.disabled ↔
      other ∈ registry.disabled ∧ ¬ (other = id ∧ registry.rules.contains id = true) := by
  unfold enable
  split
  · next known => simp [known]
  · next unknown => simp [unknown]

@[simp]
theorem get?_disable (other : String) :
    (registry.disable id).2.get? other = registry.get? other := by
  rw [get?, disable_rules, get?]

@[simp]
theorem get?_enable (other : String) : (registry.enable id).2.get? other = registry.get? other := by
  rw [get?, enable_rules, get?]

theorem disable_answer : (registry.disable id).1 = (registry.get? id).isSome := by
  rw [← contains_eq]
  unfold disable
  split
  · next known => exact known.symm
  · next unknown => exact (Bool.eq_false_of_not_eq_true unknown).symm

theorem enable_answer : (registry.enable id).1 = (registry.get? id).isSome := by
  rw [← contains_eq]
  unfold enable
  split
  · next known => exact known.symm
  · next unknown => exact (Bool.eq_false_of_not_eq_true unknown).symm

theorem disable_of_unknown (unknown : registry.get? id = none) :
    registry.disable id = (false, registry) := by
  have absent : ¬ registry.rules.contains id = true := by simp [contains_eq, unknown]
  rw [disable, if_neg absent]

theorem enable_of_unknown (unknown : registry.get? id = none) :
    registry.enable id = (false, registry) := by
  have absent : ¬ registry.rules.contains id = true := by simp [contains_eq, unknown]
  rw [enable, if_neg absent]

theorem isEnabled_iff :
    registry.isEnabled id = true ↔ (registry.get? id).isSome = true ∧ id ∉ registry.disabled := by
  simp [isEnabled, contains_eq]

theorem enable_disable (running : registry.isEnabled id = true) :
    ((registry.disable id).2.enable id).2 = registry := by
  obtain ⟨known, on⟩ := (registry.isEnabled_iff id).mp running
  have held : registry.rules.contains id = true := known
  have off : (registry.disable id).2 = { registry with disabled := id :: registry.disabled } := by
    simp [disable, held, on]
  rw [off]
  apply ext_parts
  · exact enable_rules _ id
  · have others : registry.disabled.filter (· != id) = registry.disabled := by
      apply List.filter_eq_self.mpr
      intro other member
      have differ : other ≠ id := fun same => on (same ▸ member)
      simpa using differ
    simp [enable, held, others]

end Steps

theorem add_comm (registry : Registry) {a b : Rule} (differ : a.id ≠ b.id) :
    (registry.add a).add b = (registry.add b).add a :=
  ext_parts (registry.rules.insert_comm differ a b) rfl

section Lists

variable (registry : Registry)

theorem id_of_get? {id : String} {rule : Rule} (found : registry.get? id = some rule) :
    rule.id = id :=
  registry.named (id, rule) ((registry.rules.mem_entries_iff id rule).mpr found)

theorem mem_list_iff (rule : Rule) : rule ∈ registry.list ↔ registry.get? rule.id = some rule := by
  have listed : rule ∈ registry.list ↔ _ := registry.rules.mem_values_iff rule
  rw [listed]
  constructor
  · rintro ⟨id, found⟩
    rw [registry.id_of_get? found]
    exact found
  · intro found
    exact ⟨rule.id, found⟩

theorem list_increasing : registry.list.Pairwise fun a b => Text.utf8 a.id < Text.utf8 b.id := by
  rw [list, NameMap.values, List.pairwise_map]
  refine registry.rules.increasing.imp_of_mem ?_
  intro a b first second less
  rw [registry.named a first, registry.named b second, Text.utf8_lt_iff]
  exact less

theorem enabled_eq :
    registry.enabled = registry.list.filter fun rule => registry.isEnabled rule.id := by
  apply List.filter_congr
  intro rule member
  have known : registry.rules.contains rule.id = true := by
    rw [contains_eq, (registry.mem_list_iff rule).mp member]
    rfl
  rw [isEnabled, known, Bool.true_and]

theorem mem_enabled_iff (rule : Rule) :
    rule ∈ registry.enabled ↔
      registry.get? rule.id = some rule ∧ registry.isEnabled rule.id = true := by
  rw [enabled_eq, List.mem_filter, mem_list_iff]

theorem enabled_increasing : registry.enabled.Pairwise fun a b => Text.utf8 a.id < Text.utf8 b.id :=
  registry.list_increasing.filter _

end Lists

end QuoteLint.Registry
