import QuoteLint.NameMap
import Mathlib.Data.List.Sort

/-! Maps by their look-ups. The entries of a map are what can be looked up in it, in the one order
that they can have, so it does not matter in which order different names came in. -/

namespace QuoteLint.NameMap

variable {β : Type}

theorem lookup_eq_some_iff {entries : List (String × β)}
    (increasing : entries.Pairwise fun a b => a.1 < b.1) (key : String) (value : β) :
    entries.lookup key = some value ↔ (key, value) ∈ entries := by
  induction entries with
  | nil => simp
  | cons head rest ih =>
      obtain ⟨name, held⟩ := head
      obtain ⟨below, tail⟩ := List.pairwise_cons.mp increasing
      rw [lookup_entry, List.mem_cons]
      by_cases same : key = name
      · subst same
        have absent : (key, value) ∉ rest :=
          fun member => String.lt_irrefl key (below (key, value) member)
        simp [absent, eq_comm]
      · simp [same, ih tail]

theorem mem_entries_iff (m : NameMap β) (key : String) (value : β) :
    (key, value) ∈ m.entries ↔ m.find? key = some value :=
  (lookup_eq_some_iff m.increasing key value).symm

theorem mem_values_iff (m : NameMap β) (value : β) :
    value ∈ m.values ↔ ∃ key, m.find? key = some value := by
  simp only [values, List.mem_map, ← mem_entries_iff]
  constructor
  · rintro ⟨⟨key, held⟩, member, rfl⟩
    exact ⟨key, member⟩
  · rintro ⟨key, member⟩
    exact ⟨(key, value), member, rfl⟩

theorem ext_find? {m n : NameMap β} (same : ∀ key, m.find? key = n.find? key) : m = n := by
  have members : ∀ entry, entry ∈ m.entries ↔ entry ∈ n.entries := by
    rintro ⟨key, value⟩
    rw [mem_entries_iff, mem_entries_iff, same]
  have distinct : ∀ {l : NameMap β}, l.entries.Nodup := by
    intro l
    refine l.increasing.imp ?_
    rintro a _ less rfl
    exact String.lt_irrefl _ less
  have entries : m.entries = n.entries := by
    refine List.Perm.eq_of_pairwise ?_ m.increasing n.increasing
      ((List.perm_ext_iff_of_nodup distinct distinct).mpr members)
    intro a b _ _ less more
    exact absurd more (String.lt_asymm less)
  cases m
  cases n
  congr

theorem insert_comm (m : NameMap β) {a b : String} (differ : a ≠ b) (x y : β) :
    (m.insert a x).insert b y = (m.insert b y).insert a x := by
  apply ext_find?
  intro key
  simp only [find?_insert]
  by_cases first : key = a
  · simp [first, differ]
  · simp [first]

theorem find?_foldl_insert {entries : List (String × β)}
    (increasing : entries.Pairwise fun a b => a.1 < b.1) (m : NameMap β) (key : String) :
    (entries.foldl (fun acc entry => acc.insert entry.1 entry.2) m).find? key =
      (entries.lookup key).or (m.find? key) := by
  induction entries generalizing m with
  | nil => rfl
  | cons head rest ih =>
      obtain ⟨name, held⟩ := head
      obtain ⟨below, tail⟩ := List.pairwise_cons.mp increasing
      rw [List.foldl_cons, ih tail, find?_insert, lookup_entry]
      by_cases same : key = name
      · subst same
        have absent : rest.lookup key = none := by
          apply Option.eq_none_iff_forall_ne_some.mpr
          intro value found
          have member := (lookup_eq_some_iff tail key value).mp found
          exact String.lt_irrefl key (below (key, value) member)
        simp [absent]
      · simp [same]

theorem find?_override (m upper : NameMap β) (key : String) :
    (m.override upper).find? key = (upper.find? key).or (m.find? key) :=
  find?_foldl_insert upper.increasing m key

theorem override_assoc (lower middle upper : NameMap β) :
    (lower.override middle).override upper = lower.override (middle.override upper) := by
  apply ext_find?
  intro key
  simp only [find?_override, Option.or_assoc]

theorem override_self (m : NameMap β) : m.override m = m := by
  apply ext_find?
  intro key
  rw [find?_override, Option.or_self]

end QuoteLint.NameMap
