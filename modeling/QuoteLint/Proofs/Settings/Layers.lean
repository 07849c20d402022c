import QuoteLint.SettingsFile
import QuoteLint.Proofs.NameMap
import Mathlib.Data.List.Induction

/-! One settings file laid over another, field by field. Ids that are new go to the end, so that
each stands where it came first; of levels and extensions the upper file decides where it says
anything. -/

namespace QuoteLint.SettingsFile

theorem nodup_addNew {ids : List String} (once : ids.Nodup) (id : String) :
    (addNew ids id).Nodup := by
  unfold addNew
  split
  · exact once
  · next absent =>
      have fresh : id ∉ ids := by simpa using absent
      refine List.nodup_append.mpr ⟨once, List.nodup_singleton id, ?_⟩
      rintro held member other last rfl
      exact fresh (List.mem_singleton.mp last ▸ member)

theorem nodup_foldl_addNew {base : List String} (once : base.Nodup) (ids : List String) :
    (ids.foldl addNew base).Nodup := by
  induction ids generalizing base with
  | nil => exact once
  | cons id rest ih => exact ih (nodup_addNew once id)

theorem foldl_addNew (base ids : List String) :
    ids.foldl addNew base = base ++ (ids.removeAll base).eraseDups := by
  induction ids generalizing base with
  | nil => simp
  | cons id rest ih =>
      rw [List.foldl_cons, ih, addNew, List.cons_removeAll]
      by_cases held : id ∈ base
      · simp [held]
      · have later : rest.removeAll (base ++ [id]) =
            (rest.removeAll base).filter fun other => !other == id := by
          rw [List.removeAll, List.removeAll, List.filter_filter]
          apply List.filter_congr
          intro other _
          by_cases same : other = id <;> simp [same]
        simp [held, later, List.eraseDups_cons]

theorem foldl_addNew_eraseDups (front ids : List String) :
    ids.foldl addNew front.eraseDups = (front ++ ids).eraseDups := by
  have held : ids.removeAll front.eraseDups = ids.removeAll front := by
    simp [List.removeAll]
  rw [foldl_addNew, held, List.eraseDups_append]

theorem mem_foldl_addNew (base ids : List String) (id : String) :
    id ∈ ids.foldl addNew base ↔ id ∈ base ∨ id ∈ ids := by
  by_cases held : id ∈ base
  · simp [foldl_addNew, held]
  · simp [foldl_addNew, held, List.removeAll]

theorem foldl_addNew_addNew (base ids : List String) (id : String) :
    (addNew ids id).foldl addNew base = addNew (ids.foldl addNew base) id := by
  by_cases held : id ∈ ids
  · have kept : id ∈ ids.foldl addNew base := (mem_foldl_addNew base ids id).mpr (.inr held)
    simp [addNew, held, kept]
  · simp [addNew, held]

/-- It does not matter whether ids are added one list after the other or all at once. Repetitions in
the middle list are gone either way, those in the lowest one stay. -/
theorem foldl_addNew_assoc (lower middle upper : List String) :
    upper.foldl addNew (middle.foldl addNew lower) =
      (upper.foldl addNew middle).foldl addNew lower := by
  induction upper generalizing middle with
  | nil => rfl
  | cons id rest ih =>
      calc rest.foldl addNew (addNew (middle.foldl addNew lower) id)
        _ = rest.foldl addNew ((addNew middle id).foldl addNew lower) := by rw [foldl_addNew_addNew]
        _ = (rest.foldl addNew (addNew middle id)).foldl addNew lower := ih (addNew middle id)

theorem foldl_addNew_self (ids : List String) : ids.foldl addNew ids = ids := by
  have none_new : ids.removeAll ids = [] := by
    apply List.filter_eq_nil_iff.mpr
    intro id member
    simp [member]
  simp [foldl_addNew, none_new]

theorem nodup_eraseDups (ids : List String) : ids.eraseDups.Nodup := by
  have run : ids.foldl addNew [] = ids.eraseDups := foldl_addNew_eraseDups [] ids
  rw [← run]
  exact nodup_foldl_addNew List.nodup_nil ids

theorem merge_severity (base upper : SettingsFile) (id : String) :
    (base.merge upper).severity.find? id = (upper.severity.find? id).or (base.severity.find? id) :=
  base.severity.find?_override upper.severity id

theorem merge_extensions (base upper : SettingsFile) :
    (base.merge upper).extensions = upper.extensions.or base.extensions := by
  rw [Option.or_eq_orElse]
  rfl

theorem merge_empty (base : SettingsFile) : base.merge empty = base := rfl

theorem merge_assoc (lower middle upper : SettingsFile) :
    (lower.merge middle).merge upper = lower.merge (middle.merge upper) := by
  have extensions : ((lower.merge middle).merge upper).extensions =
      (lower.merge (middle.merge upper)).extensions := by
    simp only [merge_extensions, Option.or_assoc]
  simp only [merge, mk.injEq] at extensions ⊢
  exact ⟨foldl_addNew_assoc _ _ _, NameMap.override_assoc _ _ _, extensions⟩

theorem merge_self (file : SettingsFile) : file.merge file = file := by
  have extensions : (file.merge file).extensions = file.extensions := by
    rw [merge_extensions, Option.or_self]
  cases file
  simp only [merge, mk.injEq] at extensions ⊢
  exact ⟨foldl_addNew_self _, NameMap.override_self _, extensions⟩

def merged (layers : List SettingsFile) : SettingsFile := layers.foldl merge empty

section Merged

variable (layers : List SettingsFile)

theorem merged_snoc (upper : SettingsFile) :
    merged (layers ++ [upper]) = (merged layers).merge upper := by
  simp [merged]

theorem merged_disabledRules :
    (merged layers).disabledRules = (layers.flatMap (·.disabledRules)).eraseDups := by
  induction layers using List.reverseRecOn with
  | nil => rfl
  | append_singleton lower upper ih =>
      calc (merged (lower ++ [upper])).disabledRules
        _ = upper.disabledRules.foldl addNew (merged lower).disabledRules := by
          rw [merged_snoc, merge]
        _ = (lower.flatMap (·.disabledRules) ++ upper.disabledRules).eraseDups := by
          rw [ih, foldl_addNew_eraseDups]
        _ = ((lower ++ [upper]).flatMap (·.disabledRules)).eraseDups := by simp

theorem merged_severity (id : String) :
    (merged layers).severity.find? id = layers.reverse.findSome? (·.severity.find? id) := by
  induction layers using List.reverseRecOn with
  | nil => rfl
  | append_singleton lower upper ih =>
      rw [merged_snoc, merge_severity, ih, List.reverse_append, List.findSome?_append]
      simp

theorem merged_extensions :
    (merged layers).extensions = layers.reverse.findSome? (·.extensions) := by
  induction layers using List.reverseRecOn with
  | nil => rfl
  | append_singleton lower upper ih =>
      rw [merged_snoc, merge_extensions, ih, List.reverse_append, List.findSome?_append]
      simp

theorem nodup_merged : (merged layers).disabledRules.Nodup := by
  rw [merged_disabledRules]
  exact nodup_eraseDups _

end Merged

/-- The uppermost file that sets something sets it to `value`. -/
def IsDecided {α : Type} (setting : SettingsFile → Option α) (layers : List SettingsFile)
    (value : α) : Prop :=
  ∃ lower file upper, layers = lower ++ file :: upper ∧ setting file = some value ∧
    ∀ other ∈ upper, setting other = none

theorem findSome?_reverse_iff {α : Type} (setting : SettingsFile → Option α)
    (layers : List SettingsFile) (value : α) :
    layers.reverse.findSome? setting = some value ↔ IsDecided setting layers value := by
  rw [List.findSome?_eq_some_iff]
  constructor
  · intro found
    rcases found with ⟨above, file, below, cut, sets, silent⟩
    refine ⟨below.reverse, file, above.reverse, ?_, sets, ?_⟩
    · rw [← layers.reverse_reverse, cut]
      simp
    · intro other member
      exact silent other (List.mem_reverse.mp member)
  · intro decided
    rcases decided with ⟨lower, file, upper, cut, sets, silent⟩
    refine ⟨upper.reverse, file, lower.reverse, ?_, sets, ?_⟩
    · rw [cut]
      simp
    · intro other member
      exact silent other (List.mem_reverse.mp member)

/-- Laying files over each other is associative and idempotent, and a file that says nothing may
stand on top. From nothing upwards, the ids of all files stand in the order in which they first
came, and the uppermost file that sets a level or the extensions decides, even with an empty list of
extensions. -/
theorem layers_merge_lawfully :
    (∀ lower middle upper : SettingsFile,
      (lower.merge middle).merge upper = lower.merge (middle.merge upper)) ∧
    (∀ file : SettingsFile, file.merge empty = file) ∧
    (∀ file : SettingsFile, file.merge file = file) ∧
    ∀ layers : List SettingsFile,
      (merged layers).disabledRules = (layers.flatMap (·.disabledRules)).eraseDups ∧
      (merged layers).disabledRules.Nodup ∧
      (∀ id level, (merged layers).severity.find? id = some level ↔
        IsDecided (·.severity.find? id) layers level) ∧
      ∀ names, (merged layers).extensions = some names ↔ IsDecided (·.extensions) layers names := by
  refine ⟨merge_assoc, merge_empty, merge_self, ?_⟩
  intro layers
  refine ⟨merged_disabledRules layers, nodup_merged layers, ?_, ?_⟩
  · intro id level
    rw [merged_severity]
    exact findSome?_reverse_iff (·.severity.find? id) layers level
  · intro names
    rw [merged_extensions]
    exact findSome?_reverse_iff (·.extensions) layers names

example :
    (merged [⟨["b", "a", "b"], .empty, some ["yaml"]⟩, ⟨["c", "a"], .empty, some []⟩,
    empty]).disabledRules =
    ["b", "a", "c"] := by decide

theorem findSome?_pair {α β : Type} (f : α → Option β) (a b : α) :
    [a, b].findSome? f = (f a).or (f b) := by
  rw [← List.singleton_append, List.findSome?_append, List.findSome?_singleton,
    List.findSome?_singleton]

end QuoteLint.SettingsFile
