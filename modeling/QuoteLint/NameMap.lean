/-! Finite maps from names to values. The entries stand in increasing order of their names, by code
point, so that two maps with the same lookups are equal. -/

namespace QuoteLint

structure NameMap (β : Type) where
  entries : List (String × β)
  increasing : entries.Pairwise fun a b => a.1 < b.1

namespace NameMap

variable {β : Type}

def empty : NameMap β := ⟨[], .nil⟩

def find? (m : NameMap β) (key : String) : Option β := m.entries.lookup key

def contains (m : NameMap β) (key : String) : Bool := (m.find? key).isSome

def keys (m : NameMap β) : List String := m.entries.map (·.1)

def values (m : NameMap β) : List β := m.entries.map (·.2)

def place (key : String) (value : β) : List (String × β) → List (String × β)
  | [] => [(key, value)]
  | entry :: rest =>
    if key < entry.1 then (key, value) :: entry :: rest
    else if key = entry.1 then (key, value) :: rest
    else entry :: place key value rest

theorem lt_of_not_lt_of_ne {a b : String} (notLess : ¬ a < b) (differ : a ≠ b) : b < a := by
  apply Decidable.byContradiction
  intro notGreater
  exact differ (String.le_antisymm (String.not_lt.mp notGreater) (String.not_lt.mp notLess))

theorem mem_place {key : String} {value : β} {entry : String × β} {entries : List (String × β)}
    (member : entry ∈ place key value entries) : entry = (key, value) ∨ entry ∈ entries := by
  induction entries with
  | nil => simpa [place] using member
  | cons head rest ih =>
    simp only [place] at member
    split at member
    · simpa using member
    · split at member
      · rcases List.mem_cons.mp member with rfl | member
        · exact .inl rfl
        · exact .inr (List.mem_cons_of_mem _ member)
      · rcases List.mem_cons.mp member with rfl | member
        · exact .inr List.mem_cons_self
        · rcases ih member with rfl | member
          · exact .inl rfl
          · exact .inr (List.mem_cons_of_mem _ member)

theorem place_increasing (key : String) (value : β) {entries : List (String × β)}
    (increasing : entries.Pairwise fun a b => a.1 < b.1) :
    (place key value entries).Pairwise fun a b => a.1 < b.1 := by
  induction entries with
  | nil => simp [place]
  | cons head rest ih =>
    obtain ⟨below, increasing⟩ := List.pairwise_cons.mp increasing
    simp only [place]
    split
    · rename_i less
      refine List.pairwise_cons.mpr ⟨?_, List.pairwise_cons.mpr ⟨below, increasing⟩⟩
      intro entry member
      rcases List.mem_cons.mp member with rfl | member
      · exact less
      · exact String.lt_trans less (below entry member)
    · split
      · rename_i same
        exact List.pairwise_cons.mpr ⟨fun entry member => same ▸ below entry member, increasing⟩
      · rename_i notLess differ
        refine List.pairwise_cons.mpr ⟨?_, ih increasing⟩
        intro entry member
        rcases mem_place member with rfl | member
        · exact lt_of_not_lt_of_ne notLess differ
        · exact below entry member

def insert (m : NameMap β) (key : String) (value : β) : NameMap β :=
  ⟨place key value m.entries, place_increasing key value m.increasing⟩

def erase (m : NameMap β) (key : String) : NameMap β :=
  ⟨m.entries.filter (·.1 != key), m.increasing.filter _⟩

/-- All entries of both maps; where a name is in both, `upper` decides. -/
def override (m upper : NameMap β) : NameMap β :=
  upper.entries.foldl (fun acc entry => acc.insert entry.1 entry.2) m

def ofList (entries : List (String × β)) : NameMap β :=
  entries.foldl (fun acc entry => acc.insert entry.1 entry.2) empty

@[simp]
theorem find?_empty (key : String) : (empty : NameMap β).find? key = none := rfl

theorem lookup_entry (name : String) (held : β) (rest : List (String × β)) (other : String) :
    ((name, held) :: rest).lookup other = if other = name then some held
      else rest.lookup other := by
  by_cases same : other = name
  · simp [same]
  · have differ : (other == name) = false := by simpa using same
    simp [List.lookup_cons, differ, same]

theorem lookup_place (key : String) (value : β) (entries : List (String × β)) (other : String) :
    (place key value entries).lookup other =
      if other = key then some value else entries.lookup other := by
  induction entries with
  | nil => simp [place, lookup_entry]
  | cons head rest ih =>
    obtain ⟨name, held⟩ := head
    simp only [place]
    split
    · simp [lookup_entry]
    · split
      · rename_i same
        by_cases found : other = key <;> simp_all [lookup_entry]
      · rename_i differ
        rw [lookup_entry, lookup_entry, ih]
        by_cases found : other = name
        · subst found
          simp [Ne.symm differ]
        · simp [found]

@[simp]
theorem find?_insert (m : NameMap β) (key : String) (value : β) (other : String) :
    (m.insert key value).find? other = if other = key then some value else m.find? other :=
  lookup_place key value m.entries other

theorem lookup_without (key : String) (entries : List (String × β)) (other : String) :
    (entries.filter (·.1 != key)).lookup other =
      if other = key then none else entries.lookup other := by
  induction entries with
  | nil => simp
  | cons head rest ih =>
    obtain ⟨name, held⟩ := head
    by_cases same : name = key
    · rw [List.filter_cons_of_neg (by simp [same]), ih, lookup_entry, same]
      by_cases found : other = key <;> simp [found]
    · rw [List.filter_cons_of_pos (by simp [same]), lookup_entry, lookup_entry, ih]
      by_cases found : other = name
      · simp [found, same]
      · simp [found]

@[simp]
theorem find?_erase (m : NameMap β) (key other : String) :
    (m.erase key).find? other = if other = key then none else m.find? other :=
  lookup_without key m.entries other

end NameMap

end QuoteLint
