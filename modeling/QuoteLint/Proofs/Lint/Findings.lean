import QuoteLint.Lint
import QuoteLint.Proofs.Registry.Steps
import Mathlib.Data.List.Forall2

/-! Where each diagnostic comes from. A finding is one violation together with the rule that made it
and its place among what that rule found. The findings of the enabled rules, in the order in which
they are reported, are determined by that alone, and the diagnostics are what the settings make of
them. -/

namespace QuoteLint

structure Finding where
  rule : Rule
  place : Nat
  found : Violation

namespace Finding

/-- What is reported of a finding. The level is that of the rule that ran, whichever rule it
names. -/
def diagnostic (settings : RuleSettings) (finding : Finding) : Diagnostic where
  line := finding.found.line
  ruleId := finding.found.ruleId
  message := finding.found.message
  shortMessage := finding.found.shortMessage
  sourceLine := finding.found.text
  severity := settings.levelFor finding.rule.id finding.rule.level

def IsMade (registry : Registry) (content : String) (finding : Finding) : Prop :=
  registry.get? finding.rule.id = some finding.rule ∧ registry.isEnabled finding.rule.id = true ∧
    (finding.rule.run content)[finding.place]? = some finding.found

def Sorted (a b : Finding) : Prop :=
  a.found.line < b.found.line ∨
    a.found.line = b.found.line ∧ Text.utf8 a.found.ruleId ≤ Text.utf8 b.found.ruleId

/-- By the id of the rule that ran, then in the order in which that rule found them. -/
def Emitted (a b : Finding) : Prop :=
  Text.utf8 a.rule.id < Text.utf8 b.rule.id ∨ a.rule.id = b.rule.id ∧ a.place < b.place

end Finding

/-- The findings behind a report, in their order. -/
structure Accounts (registry : Registry) (content : String) (findings : List Finding) : Prop where
  /-- Nothing is lost, nothing is invented, -/
  complete : ∀ finding, finding ∈ findings ↔ finding.IsMade registry content
  /-- and nothing is there twice. -/
  once : findings.Nodup
  sorted : findings.Pairwise Finding.Sorted
  stable : findings.Pairwise fun a b =>
    a.found.line = b.found.line → a.found.ruleId = b.found.ruleId → a.Emitted b

theorem pairwise_mergeSort_ties {α : Type} {le : α → α → Bool} {order : α → α → Prop}
    {entries : List α} (trans : ∀ a b c, le a b = true → le b c = true → le a c = true)
    (total : ∀ a b, (le a b || le b a) = true) (ordered : entries.Pairwise order) :
    (entries.mergeSort le).Pairwise fun a b => le b a = true → order a b := by
  induction entries with
  | nil => simp
  | cons head rest ih =>
      obtain ⟨before, ordered⟩ := List.pairwise_cons.mp ordered
      obtain ⟨front, back, whole, tail, less⟩ := List.mergeSort_cons trans total head rest
      have kept := ih ordered
      rw [tail, List.pairwise_append] at kept
      obtain ⟨inFront, inBack, across⟩ := kept
      rw [whole, List.pairwise_append, List.pairwise_cons]
      refine ⟨inFront, ⟨?_, inBack⟩, ?_⟩
      · intro entry member _
        have present : entry ∈ rest.mergeSort le := tail ▸ List.mem_append_right front member
        exact before entry (List.mem_mergeSort.mp present)
      · intro entry member other place tied
        rcases List.mem_cons.mp place with rfl | place
        · -- an entry that went before the head is strictly less
          have strict := less entry member
          simp [tied] at strict
        · exact across entry member other place tied

namespace Finding

def le (a b : Finding) : Bool :=
  a.found.line < b.found.line ||
    (a.found.line == b.found.line && !(b.found.ruleId < a.found.ruleId))

theorem le_iff (a b : Finding) : a.le b = true ↔ a.Sorted b := by
  simp [le, Sorted, ← List.not_lt, Text.utf8_lt_iff]

theorem sorted_trans {a b c : Finding} (first : a.Sorted b) (second : b.Sorted c) : a.Sorted c := by
  rcases first with less | ⟨same, less⟩
  · rcases second with next | ⟨next, -⟩
    · exact .inl (less.trans next)
    · exact .inl (next ▸ less)
  · rcases second with next | ⟨next, more⟩
    · exact .inl (same ▸ next)
    · exact .inr ⟨same.trans next, List.le_trans less more⟩

theorem sorted_total (a b : Finding) : a.Sorted b ∨ b.Sorted a := by
  rcases Nat.lt_trichotomy a.found.line b.found.line with less | same | more
  · exact .inl (.inl less)
  · rcases List.le_total (Text.utf8 a.found.ruleId) (Text.utf8 b.found.ruleId) with less | more
    · exact .inl (.inr ⟨same, less⟩)
    · exact .inr (.inr ⟨same.symm, more⟩)
  · exact .inr (.inl more)

theorem same_of_sorted {a b : Finding} (first : a.Sorted b) (second : b.Sorted a) :
    a.found.line = b.found.line ∧ a.found.ruleId = b.found.ruleId := by
  obtain ⟨line, upper, lower⟩ : a.found.line = b.found.line ∧
      Text.utf8 a.found.ruleId ≤ Text.utf8 b.found.ruleId ∧
      Text.utf8 b.found.ruleId ≤ Text.utf8 a.found.ruleId := by
    rcases first with less | ⟨same, less⟩
    · rcases second with more | ⟨same, -⟩ <;> omega
    · rcases second with more | ⟨-, more⟩
      · omega
      · exact ⟨same, less, more⟩
  exact ⟨line, Text.utf8_inj (List.le_antisymm upper lower)⟩

theorem emitted_asymm {a b : Finding} (first : a.Emitted b) (second : b.Emitted a) : False := by
  rcases first with less | ⟨same, less⟩
  · rcases second with more | ⟨same, -⟩
    · exact List.lt_asymm less more
    · exact List.lt_irrefl _ (same ▸ less)
  · rcases second with more | ⟨-, more⟩
    · exact List.lt_irrefl _ (same ▸ more)
    · omega

end Finding

/-- There is at most one way to account for a report. -/
theorem Accounts.unique {registry : Registry} {content : String} {findings others : List Finding}
    (first : Accounts registry content findings) (second : Accounts registry content others) :
    findings = others := by
  have members : ∀ finding, finding ∈ findings ↔ finding ∈ others := by
    intro finding
    rw [first.complete, second.complete]
  refine List.Perm.eq_of_pairwise ?_ (first.sorted.and first.stable)
    (second.sorted.and second.stable)
    ((List.perm_ext_iff_of_nodup first.once second.once).mpr members)
  rintro a b - - ⟨before, early⟩ ⟨after, late⟩
  obtain ⟨line, id⟩ := Finding.same_of_sorted before after
  exact (Finding.emitted_asymm (early line id) (late line.symm id.symm)).elim

def Rule.findings (content : String) (rule : Rule) : List Finding :=
  (rule.run content).zipIdx.map fun entry => ⟨rule, entry.2, entry.1⟩

namespace Registry

variable (registry : Registry) (content : String)

def findings : List Finding := registry.enabled.flatMap (Rule.findings content)

def reported : List Finding := (registry.findings content).mergeSort Finding.le

end Registry

theorem Rule.mem_findings (content : String) (rule : Rule) (finding : Finding) :
    finding ∈ rule.findings content ↔
      finding.rule = rule ∧ (rule.run content)[finding.place]? = some finding.found := by
  simp only [findings, List.mem_map, List.mem_zipIdx_iff_getElem?, Prod.exists]
  constructor
  · rintro ⟨found, place, present, rfl⟩
    exact ⟨rfl, present⟩
  · rintro ⟨rfl, present⟩
    exact ⟨finding.found, finding.place, present, rfl⟩

theorem Rule.findings_emitted (content : String) (rule : Rule) :
    (rule.findings content).Pairwise Finding.Emitted := by
  have places : ((rule.run content).zipIdx.map Prod.snd).Pairwise (· < ·) := by
    rw [List.zipIdx_map_snd]
    exact List.pairwise_lt_range'
  rw [findings, List.pairwise_map]
  refine (List.pairwise_map.mp places).imp ?_
  intro a b less
  exact .inr ⟨rfl, less⟩

namespace Registry

variable (registry : Registry) (content : String)

theorem mem_findings (finding : Finding) :
    finding ∈ registry.findings content ↔ finding.IsMade registry content := by
  simp only [findings, List.mem_flatMap, Rule.mem_findings, mem_enabled_iff, Finding.IsMade]
  constructor
  · rintro ⟨rule, ⟨known, running⟩, rfl, present⟩
    exact ⟨known, running, present⟩
  · rintro ⟨known, running, present⟩
    exact ⟨finding.rule, ⟨known, running⟩, rfl, present⟩

theorem findings_emitted : (registry.findings content).Pairwise Finding.Emitted := by
  rw [findings, List.pairwise_flatMap]
  refine ⟨fun rule _ => rule.findings_emitted content, registry.enabled_increasing.imp ?_⟩
  intro earlier later less a first b second
  obtain ⟨rfl, -⟩ := (Rule.mem_findings content earlier a).mp first
  obtain ⟨rfl, -⟩ := (Rule.mem_findings content later b).mp second
  exact .inl less

theorem accounts_reported : Accounts registry content (registry.reported content) := by
  have trans : ∀ a b c : Finding, a.le b = true → b.le c = true → a.le c = true := by
    intro a b c
    simp only [Finding.le_iff]
    exact Finding.sorted_trans
  have total : ∀ a b : Finding, (a.le b || b.le a) = true := by
    intro a b
    rw [Bool.or_eq_true, Finding.le_iff, Finding.le_iff]
    exact a.sorted_total b
  have emitted := registry.findings_emitted content
  have distinct : (registry.findings content).Nodup := by
    refine emitted.imp ?_
    rintro a _ less rfl
    exact Finding.emitted_asymm less less
  refine ⟨?_, ?_, ?_, ?_⟩
  · intro finding
    rw [reported, List.mem_mergeSort, mem_findings]
  · exact (List.mergeSort_perm _ _).nodup_iff.mpr distinct
  · refine (List.pairwise_mergeSort trans total _).imp ?_
    intro a b
    exact (a.le_iff b).mp
  · refine (pairwise_mergeSort_ties trans total emitted).imp ?_
    intro a b tied line id
    apply tied
    rw [Finding.le_iff, Finding.Sorted, line, id]
    exact .inr ⟨rfl, List.le_refl _⟩

end Registry

theorem map_findings (settings : RuleSettings) (content : String) (rule : Rule) :
    (rule.findings content).map (Finding.diagnostic settings) =
      diagnosticsOf settings content rule := by
  rw [Rule.findings, List.map_map, diagnosticsOf]
  change (rule.run content).zipIdx.map
    (Diagnostic.ofViolation (settings.levelFor rule.id rule.level) ∘ Prod.fst) = _
  rw [← List.map_map, List.zipIdx_map_fst]

theorem lint_diagnostics (registry : Registry) (settings : RuleSettings) (content : String) :
    (lint registry settings content).diagnostics =
      (registry.reported content).map (Finding.diagnostic settings) := by
  have order : ∀ a ∈ registry.findings content, ∀ b ∈ registry.findings content,
      a.le b = (a.diagnostic settings).le (b.diagnostic settings) := by
    intro a _ b _
    rfl
  rw [Registry.reported, List.map_mergeSort order, Registry.findings, List.map_flatMap]
  simp only [map_findings]
  rfl

/-- The diagnostics of a document are the one list that accounts for all findings of the enabled
rules: each once, by line and named id, and where these are equal by the rule that ran and in the
order in which it found them. Other levels in the settings change the levels in the diagnostics and
nothing else. -/
theorem lint_accounts_for_findings (registry : Registry) (settings : RuleSettings)
    (content : String) :
    (∀ diagnostics, (lint registry settings content).diagnostics = diagnostics ↔
      ∃ findings, Accounts registry content findings ∧
        diagnostics = findings.map (Finding.diagnostic settings)) ∧
    ∀ severity, List.Forall₂
      (fun before after => after = { before with severity := after.severity })
      (lint registry settings content).diagnostics
      (lint registry { settings with severity := severity } content).diagnostics := by
  constructor
  · intro diagnostics
    rw [lint_diagnostics]
    constructor
    · rintro rfl
      exact ⟨registry.reported content, registry.accounts_reported content, rfl⟩
    · rintro ⟨findings, accounts, rfl⟩
      rw [(registry.accounts_reported content).unique accounts]
  · intro severity
    rw [lint_diagnostics, lint_diagnostics, List.forall₂_map_left_iff, List.forall₂_map_right_iff,
      List.forall₂_same]
    intro finding _
    rfl

end QuoteLint
