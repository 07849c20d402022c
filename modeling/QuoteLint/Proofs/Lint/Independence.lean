import QuoteLint.Proofs.Lint.Findings
import QuoteLint.Proofs.Registry.History

/-! Rules stand beside each other. The order in which they come into a registry leaves no trace, and
switching one off takes its own findings out of a report and moves no other, also where rules name
the same id. -/

namespace QuoteLint

namespace Registry

variable (registry : Registry)

theorem foldl_add_eq {rules others : List Rule} (distinct : (rules.map Rule.id).Nodup)
    (same : rules.Perm others) : rules.foldl add registry = others.foldl add registry := by
  refine same.foldl_eq' ?_ registry
  intro a first b second held
  by_cases named : a.id = b.id
  · rw [List.inj_on_of_nodup_map distinct first second named]
  · exact held.add_comm named

theorem get?_foldl_add {rules : List Rule} (distinct : (rules.map Rule.id).Nodup) (id : String)
    (rule : Rule) : (rules.foldl add empty).get? id = some rule ↔ rule ∈ rules ∧ rule.id = id := by
  have history : rules.foldl add empty = empty.after (rules.map .add) := by
    rw [after, List.foldl_map]
    rfl
  rw [history, get?_after]
  constructor
  · rintro ⟨named, before, later, cut, -⟩
    have listed : Operation.add rule ∈ rules.map .add := by simp [cut]
    obtain ⟨held, member, ⟨⟩⟩ := List.mem_map.mp listed
    exact ⟨member, named⟩
  · rintro ⟨member, rfl⟩
    obtain ⟨front, back, rfl⟩ := List.append_of_mem member
    refine ⟨rfl, front.map .add, back.map .add, by simp, ?_⟩
    intro other listed same
    obtain ⟨held, present, ⟨⟩⟩ := List.mem_map.mp listed
    rw [List.map_append, List.map_cons] at distinct
    have fresh := (List.nodup_cons.mp (List.nodup_append.mp distinct).2.1).1
    exact fresh (List.mem_map.mpr ⟨other, present, same⟩)

theorem list_foldl_add {rules : List Rule} (distinct : (rules.map Rule.id).Nodup) :
    (rules.foldl add empty).list.Perm rules := by
  have once : (rules.foldl add empty).list.Nodup := by
    refine (list_increasing _).imp ?_
    rintro a _ less rfl
    exact List.lt_irrefl _ less
  refine (List.perm_ext_iff_of_nodup once distinct.of_map).mpr ?_
  intro rule
  rw [mem_list_iff, get?_foldl_add distinct]
  simp

theorem isEnabled_disable (id other : String) :
    (registry.disable id).2.isEnabled other = true ↔
      registry.isEnabled other = true ∧ other ≠ id := by
  rw [isEnabled_iff, isEnabled_iff, get?_disable, mem_disable, contains_eq]
  constructor
  · rintro ⟨known, on⟩
    obtain ⟨before, kept⟩ := not_or.mp on
    refine ⟨⟨known, before⟩, ?_⟩
    rintro rfl
    exact kept ⟨rfl, known⟩
  · rintro ⟨⟨known, on⟩, differ⟩
    refine ⟨known, ?_⟩
    rintro (before | ⟨same, -⟩)
    · exact on before
    · exact differ same

end Registry

theorem Finding.isMade_disable (registry : Registry) (content id : String) (finding : Finding) :
    finding.IsMade (registry.disable id).2 content ↔
      finding.IsMade registry content ∧ finding.rule.id ≠ id := by
  rw [IsMade, IsMade, Registry.get?_disable, Registry.isEnabled_disable]
  constructor
  · rintro ⟨known, ⟨running, differ⟩, present⟩
    exact ⟨⟨known, running, present⟩, differ⟩
  · rintro ⟨⟨known, running, present⟩, differ⟩
    exact ⟨known, ⟨running, differ⟩, present⟩

theorem Accounts.disable {registry : Registry} {content : String} {findings : List Finding}
    (accounts : Accounts registry content findings) (id : String) :
    Accounts (registry.disable id).2 content (findings.filter (·.rule.id != id)) where
  complete finding := by
    rw [List.mem_filter, accounts.complete, Finding.isMade_disable, bne_iff_ne]
  once := accounts.once.filter _
  sorted := accounts.sorted.filter _
  stable := accounts.stable.filter _

/-- Rules with different ids can be added in any order. Of a rule that is switched off, what its own
run found goes from the report; all else keeps its order and its fields, and switching the rule on
again brings the report back. -/
theorem rules_do_not_interfere (settings : RuleSettings) (content : String) :
    (∀ rules others : List Rule, (rules.map Rule.id).Nodup → rules.Perm others →
      (rules.foldl Registry.add .empty).list.Perm rules ∧
      (rules.foldl Registry.add .empty).list = (others.foldl Registry.add .empty).list ∧
      (rules.foldl Registry.add .empty).enabled = (others.foldl Registry.add .empty).enabled ∧
      lint (rules.foldl Registry.add .empty) settings content =
        lint (others.foldl Registry.add .empty) settings content) ∧
    ∀ (registry : Registry) (id : String), registry.isEnabled id = true →
      (∃ findings, Accounts registry content findings ∧
        (lint registry settings content).diagnostics = findings.map (Finding.diagnostic settings) ∧
        (lint (registry.disable id).2 settings content).diagnostics =
          (findings.filter (·.rule.id != id)).map (Finding.diagnostic settings)) ∧
      lint ((registry.disable id).2.enable id).2 settings content =
        lint registry settings content := by
  constructor
  · intro rules others distinct same
    have equal := Registry.empty.foldl_add_eq distinct same
    exact ⟨Registry.list_foldl_add distinct, by rw [equal], by rw [equal], by rw [equal]⟩
  · intro registry id running
    have accounts := registry.accounts_reported content
    refine ⟨⟨registry.reported content, accounts, lint_diagnostics registry settings content, ?_⟩,
      ?_⟩
    · rw [lint_diagnostics,
        ((registry.disable id).2.accounts_reported content).unique (accounts.disable id)]
    · rw [registry.enable_disable id running]

def Rule.constant (id : String) (level : Severity) (found : List Violation) : Rule where
  id := id
  name := "constant"
  shortDescription := "Finds the same everywhere."
  fullDescription := "Finds the same everywhere."
  level := level
  run _ := found

def sharedLine : List Rule :=
  [.constant "B" .error [⟨"X", "", "", 1, ""⟩],
    .constant "A" .info [⟨"X", "", "", 2, ""⟩, ⟨"X", "", "", 1, ""⟩]]

theorem rules_do_not_interfere_on_shared_line :
    let registry := sharedLine.foldl Registry.add .empty
    (sharedLine.map Rule.id).Nodup ∧ registry.isEnabled "A" = true ∧
      lint registry .empty "" = lint (sharedLine.reverse.foldl Registry.add .empty) .empty "" ∧
      (lint registry .empty "").diagnostics.map (·.severity) = [.info, .error, .info] ∧
      (lint (registry.disable "A").2 .empty "").diagnostics.map (·.severity) = [.error] ∧
      lint ((registry.disable "A").2.enable "A").2 .empty "" = lint registry .empty "" := by
  have distinct : (sharedLine.map Rule.id).Nodup := by decide
  have running : (sharedLine.foldl Registry.add .empty).isEnabled "A" = true := by decide
  have swapped :=
    (rules_do_not_interfere .empty "").1 _ _ distinct (List.reverse_perm sharedLine).symm
  have restored := ((rules_do_not_interfere .empty "").2 _ "A" running).2
  have found : (sharedLine.foldl Registry.add .empty).enabled.flatMap (diagnosticsOf .empty "") =
      [⟨2, "X", "", "", "", .info⟩, ⟨1, "X", "", "", "", .info⟩, ⟨1, "X", "", "", "", .error⟩] := by
    decide
  have left : ((sharedLine.foldl Registry.add .empty).disable "A").2.enabled.flatMap
      (diagnosticsOf .empty "") = [⟨1, "X", "", "", "", .error⟩] := by
    decide
  refine ⟨distinct, running, swapped.2.2.2, ?_, ?_, restored⟩
  · rw [lint, found]
    simp [List.mergeSort, List.MergeSort.Internal.splitInTwo, Diagnostic.le]
  · rw [lint, left, List.mergeSort_singleton]
    rfl

end QuoteLint
