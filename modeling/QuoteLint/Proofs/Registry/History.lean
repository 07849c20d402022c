import QuoteLint.Proofs.Registry.Steps
import Mathlib.Data.List.Induction

/-! Registries as functions of the operations that led to them. Of each id only the last rule added
under it counts, and the latest switch that came after the first of its rules. -/

namespace QuoteLint.Registry

inductive Operation where
  | add (rule : Rule)
  | disable (id : String)
  | enable (id : String)

def perform (registry : Registry) : Operation → Registry
  | .add rule => registry.add rule
  | .disable id => (registry.disable id).2
  | .enable id => (registry.enable id).2

def after (registry : Registry) (operations : List Operation) : Registry :=
  operations.foldl perform registry

section History

variable (history : List Operation) (id : String)

def IsAdded : Prop := ∃ rule, .add rule ∈ history ∧ rule.id = id

/-- No other rule was added under the id after this one. -/
def IsLatestRule (rule : Rule) : Prop :=
  rule.id = id ∧ ∃ before later, history = before ++ .add rule :: later ∧
    ∀ other, .add other ∈ later → other.id ≠ id

/-- The latest switch of the id since a rule was first added under it is a `disable`. -/
def IsSwitchedOff : Prop :=
  ∃ before later, history = before ++ .disable id :: later ∧ IsAdded before id ∧
    .disable id ∉ later ∧ .enable id ∉ later

theorem snoc_eq_iff {α : Type} {front before later : List α} {last middle : α} :
    front ++ [last] = before ++ middle :: later ↔
      (front = before ∧ last = middle ∧ later = []) ∨
        ∃ rest, front = before ++ middle :: rest ∧ later = rest ++ [last] := by
  constructor
  · intro cut
    rcases List.eq_nil_or_concat later with rfl | ⟨rest, final, rfl⟩
    · obtain ⟨same, ends⟩ := List.append_inj' cut rfl
      exact .inl ⟨same, List.singleton_inj.mp ends, rfl⟩
    · have regrouped : front ++ [last] = (before ++ middle :: rest) ++ [final] := by simpa using cut
      obtain ⟨same, ends⟩ := List.append_inj' regrouped rfl
      exact .inr ⟨rest, same, by rw [ends, List.concat_eq_append]⟩
  · rintro (⟨rfl, rfl, rfl⟩ | ⟨rest, rfl, rfl⟩)
    · rfl
    · simp

theorem isAdded_snoc (operation : Operation) :
    IsAdded (history ++ [operation]) id ↔
      IsAdded history id ∨ ∃ rule, operation = .add rule ∧ rule.id = id := by
  constructor
  · rintro ⟨rule, member, named⟩
    rcases List.mem_append.mp member with earlier | now
    · exact .inl ⟨rule, earlier, named⟩
    · exact .inr ⟨rule, (List.mem_singleton.mp now).symm, named⟩
  · rintro (⟨rule, earlier, named⟩ | ⟨rule, rfl, named⟩)
    · exact ⟨rule, List.mem_append_left _ earlier, named⟩
    · exact ⟨rule, by simp, named⟩

theorem isLatestRule_snoc (operation : Operation) (rule : Rule) :
    IsLatestRule (history ++ [operation]) id rule ↔
      (operation = .add rule ∧ rule.id = id) ∨
        (IsLatestRule history id rule ∧ ∀ other, operation = .add other → other.id ≠ id) := by
  constructor
  · rintro ⟨named, before, later, cut, last⟩
    rcases snoc_eq_iff.mp cut with ⟨-, now, -⟩ | ⟨rest, earlier, rfl⟩
    · exact .inl ⟨now, named⟩
    · refine .inr ⟨⟨named, before, rest, earlier, ?_⟩, ?_⟩
      · intro other member
        exact last other (List.mem_append_left _ member)
      · rintro other rfl
        exact last other (by simp)
  · rintro (⟨rfl, named⟩ | ⟨⟨named, before, rest, rfl, last⟩, kept⟩)
    · exact ⟨named, history, [], rfl, by simp⟩
    · refine ⟨named, before, rest ++ [operation], by simp, ?_⟩
      intro other member
      rcases List.mem_append.mp member with earlier | now
      · exact last other earlier
      · exact kept other (List.mem_singleton.mp now).symm

theorem isAdded_of_isSwitchedOff (off : IsSwitchedOff history id) : IsAdded history id := by
  obtain ⟨before, later, rfl, ⟨rule, member, named⟩, -⟩ := off
  exact ⟨rule, List.mem_append_left _ member, named⟩

theorem isSwitchedOff_snoc (operation : Operation) :
    IsSwitchedOff (history ++ [operation]) id ↔
      (operation = .disable id ∧ IsAdded history id) ∨
        (IsSwitchedOff history id ∧ operation ≠ .enable id) := by
  constructor
  · rintro ⟨before, later, cut, added, notOff, notOn⟩
    rcases snoc_eq_iff.mp cut with ⟨rfl, now, -⟩ | ⟨rest, earlier, rfl⟩
    · exact .inl ⟨now, added⟩
    · simp only [List.mem_append, List.mem_singleton, not_or] at notOff notOn
      exact .inr ⟨⟨before, rest, earlier, added, notOff.1, notOn.1⟩, Ne.symm notOn.2⟩
  · rintro (⟨rfl, added⟩ | ⟨off, notOn⟩)
    · exact ⟨history, [], rfl, added, by simp, by simp⟩
    · -- a second `disable` becomes the latest one itself
      by_cases again : operation = .disable id
      · rw [again]
        exact ⟨history, [], rfl, isAdded_of_isSwitchedOff history id off, by simp, by simp⟩
      · obtain ⟨before, rest, rfl, added, offAgain, on⟩ := off
        refine ⟨before, rest ++ [operation], by simp, added, ?_, ?_⟩
        · simp [offAgain, Ne.symm again]
        · simp [on, Ne.symm notOn]

end History

section After

variable (operations : List Operation) (id : String)

theorem after_snoc (registry : Registry) (operation : Operation) :
    registry.after (operations ++ [operation]) = (registry.after operations).perform operation := by
  simp [after]

theorem get?_after (rule : Rule) :
    (empty.after operations).get? id = some rule ↔ IsLatestRule operations id rule := by
  induction operations using List.reverseRecOn with
  | nil => simp [after, IsLatestRule]
  | append_singleton history operation ih =>
      rw [after_snoc, isLatestRule_snoc]
      cases operation with
      | add new =>
          rw [perform, get?_add]
          by_cases same : id = new.id
          · rw [if_pos same]
            constructor
            · rintro ⟨⟩
              exact .inl ⟨rfl, same.symm⟩
            · rintro (⟨⟨⟩, -⟩ | ⟨-, kept⟩)
              · rfl
              · exact absurd same.symm (kept new rfl)
          · rw [if_neg same, ih]
            constructor
            · intro latest
              refine .inr ⟨latest, ?_⟩
              rintro other ⟨⟩
              exact Ne.symm same
            · rintro (⟨⟨⟩, named⟩ | ⟨latest, -⟩)
              · exact absurd named.symm same
              · exact latest
      | disable other => simp [perform, ih]
      | enable other => simp [perform, ih]

theorem known_after : ((empty.after operations).get? id).isSome = true ↔ IsAdded operations id := by
  induction operations using List.reverseRecOn with
  | nil => simp [after, IsAdded]
  | append_singleton history operation ih =>
      rw [after_snoc, isAdded_snoc]
      cases operation with
      | add new =>
          rw [perform, get?_add]
          by_cases same : id = new.id
          · simp [same]
          · simp [same, Ne.symm same, ih]
      | disable other => simp [perform, ih]
      | enable other => simp [perform, ih]

theorem mem_disabled_after :
    id ∈ (empty.after operations).disabled ↔ IsSwitchedOff operations id := by
  induction operations using List.reverseRecOn with
  | nil => simp [after, empty, IsSwitchedOff]
  | append_singleton history operation ih =>
      rw [after_snoc, isSwitchedOff_snoc]
      cases operation with
      | add new => simpa [perform] using ih
      | disable other =>
          rw [perform, mem_disable, contains_eq, known_after, ih]
          by_cases same : id = other
          · simp [same, or_comm]
          · simp [same, Ne.symm same]
      | enable other =>
          rw [perform, mem_enable, contains_eq, known_after, ih]
          by_cases same : id = other
          · subst same
            have known := isAdded_of_isSwitchedOff history id
            simpa using known
          · simp [same, Ne.symm same]

end After

inductive Start where
  | bare
  | builtin

namespace Start

def registry : Start → Registry
  | .bare => .empty
  | .builtin => .builtin

def history : Start → List Operation
  | .bare => []
  | .builtin => [.add MismatchedQuotes.rule]

theorem registry_eq (start : Start) : start.registry = empty.after start.history := by
  cases start with
  | bare => rfl
  | builtin => rfl

end Start

/-- All that a registry answers, read off the operations that led to it. -/
structure Follows (registry : Registry) (history : List Operation) : Prop where
  known : ∀ id, (registry.get? id).isSome = true ↔ IsAdded history id
  latest : ∀ id rule, registry.get? id = some rule ↔ IsLatestRule history id rule
  disable_answer : ∀ id, (registry.disable id).1 = true ↔ IsAdded history id
  enable_answer : ∀ id, (registry.enable id).1 = true ↔ IsAdded history id
  disable_unknown : ∀ id, ¬ IsAdded history id → (registry.disable id).2 = registry
  enable_unknown : ∀ id, ¬ IsAdded history id → (registry.enable id).2 = registry
  runs : ∀ id, registry.isEnabled id = true ↔ IsAdded history id ∧ ¬ IsSwitchedOff history id
  /-- A new rule under an id that is switched off does not run either. -/
  stays_off : ∀ rule, IsSwitchedOff history rule.id → (registry.add rule).isEnabled rule.id = false
  listed : ∀ rule, rule ∈ registry.list ↔ registry.get? rule.id = some rule
  increasing : registry.list.Pairwise fun a b => Text.utf8 a.id < Text.utf8 b.id
  enabled_eq : registry.enabled = registry.list.filter fun rule => registry.isEnabled rule.id

/-- After any operations, with no rules at the start or with the builtin ones, a registry is what
its history says. -/
theorem follows_history (start : Start) (operations : List Operation) :
    (start.registry.after operations).Follows (start.history ++ operations) := by
  have made : start.registry.after operations = empty.after (start.history ++ operations) := by
    rw [start.registry_eq, after, after, after, List.foldl_append]
  rw [made]
  generalize start.history ++ operations = history
  have known := known_after history
  have unknown : ∀ id, ¬ IsAdded history id → (empty.after history).get? id = none := by
    intro id absent
    rw [← known id, Option.not_isSome_iff_eq_none] at absent
    exact absent
  refine
    { known := known
      latest := get?_after history
      disable_answer := ?_
      enable_answer := ?_
      disable_unknown := ?_
      enable_unknown := ?_
      runs := ?_
      stays_off := ?_
      listed := mem_list_iff _
      increasing := list_increasing _
      enabled_eq := enabled_eq _ }
  · intro id
    rw [Registry.disable_answer, known]
  · intro id
    rw [Registry.enable_answer, known]
  · intro id absent
    rw [disable_of_unknown _ id (unknown id absent)]
  · intro id absent
    rw [enable_of_unknown _ id (unknown id absent)]
  · intro id
    rw [isEnabled_iff, known, mem_disabled_after]
  · intro rule off
    apply Bool.eq_false_of_not_eq_true
    intro running
    have on := ((isEnabled_iff _ rule.id).mp running).2
    exact on ((mem_disabled_after history rule.id).mpr off)

end QuoteLint.Registry
