import QuoteLint.Proofs.Files.Collection

/-! Trees in which all names are texts. A path that leads somewhere in such a tree is a text itself,
and so is all that is found there. -/

namespace QuoteLint

namespace Text

def IsUtf8 (bytes : List UInt8) : Prop := ∃ text : String, bytes = utf8 text

theorem IsUtf8.append {front back : List UInt8} (first : IsUtf8 front) (second : IsUtf8 back) :
    IsUtf8 (front ++ back) := by
  rcases first with ⟨one, rfl⟩
  rcases second with ⟨other, rfl⟩
  exact ⟨one ++ other, (utf8_append one other).symm⟩

theorem isUtf8_nil : IsUtf8 [] := ⟨"", rfl⟩

theorem isUtf8_slash : IsUtf8 [Path.slash] := ⟨"/", by decide⟩

theorem isUtf8_intercalate {segments : List (List UInt8)}
    (each : ∀ segment ∈ segments, IsUtf8 segment) :
    IsUtf8 ([Path.slash].intercalate segments) := by
  induction segments with
  | nil => exact isUtf8_nil
  | cons segment rest ih =>
      rcases List.forall_mem_cons.mp each with ⟨first, later⟩
      cases rest with
      | nil => simpa using first
      | cons next more =>
          rw [List.intercalate_cons_cons]
          exact (first.append isUtf8_slash).append (ih later)

end Text

namespace Path

theorem isText_iff (path : Path) : path.IsText ↔ Text.IsUtf8 path.bytes := by
  constructor
  · intro text
    rcases text with ⟨own, rfl⟩
    exact ⟨own, rfl⟩
  · intro bytes
    rcases bytes with ⟨own, same⟩
    exact ⟨own, Path.ext same⟩

theorem isText_of_segments {path : Path}
    (each : ∀ segment ∈ path.segments, Text.IsUtf8 segment) : path.IsText := by
  rw [isText_iff]
  have joined : [slash].intercalate path.segments = path.bytes := List.intercalate_splitOn slash
  rw [← joined]
  exact Text.isUtf8_intercalate each

theorem IsText.below {path : Path} (text : path.IsText) {name : Name}
    (named : Text.IsUtf8 name.bytes) : (path.below name).IsText := by
  rw [isText_iff] at text ⊢
  rw [Path.below, join]
  split
  · exact named
  · split
    · exact text.append named
    · exact text.append (Text.isUtf8_slash.append named)

theorem IsText.descend {path : Path} (text : path.IsText) {names : Location}
    (named : ∀ name ∈ names, Text.IsUtf8 name.bytes) : (path.descend names).IsText := by
  induction names generalizing path with
  | nil => exact text
  | cons name rest ih =>
      rcases List.forall_mem_cons.mp named with ⟨first, later⟩
      exact ih (text.below first) later

theorem isUtf8_of_stepOf {segment : List UInt8}
    (named : ∀ name, stepOf segment = .name name → Text.IsUtf8 name.bytes) :
    Text.IsUtf8 segment := by
  unfold stepOf at named
  split at named
  · next blank =>
      rcases blank with rfl | rfl
      · exact Text.isUtf8_nil
      · exact ⟨".", by decide⟩
  · split at named
    · next up => exact ⟨"..", by rw [up]; decide⟩
    · exact named ⟨segment⟩ rfl

theorem isText_of_steps {path : Path}
    (named : ∀ name, .name name ∈ path.steps → Text.IsUtf8 name.bytes) : path.IsText := by
  apply isText_of_segments
  intro segment member
  apply isUtf8_of_stepOf
  intro name step
  have along : Component.name name ∈ path.segments.map stepOf :=
    List.mem_map.mpr ⟨segment, member, step⟩
  apply named
  rw [steps]
  split
  · exact List.mem_cons_of_mem _ along
  · exact along

end Path

namespace Node

/-- All names in the node are texts, down to the last directory. -/
inductive HasUnicodeNames : Node → Prop
  | file (contents : Except String ByteArray) : HasUnicodeNames (.file contents)
  | link (target : Path) : HasUnicodeNames (.link target)
  | directory {entries : List (Name × Node)} (fault : Option String)
      (named : ∀ entry ∈ entries, Text.IsUtf8 entry.1.bytes)
      (below : ∀ entry ∈ entries, HasUnicodeNames entry.2) :
      HasUnicodeNames (.directory entries fault)

theorem HasUnicodeNames.entry {node : Node} (unicode : node.HasUnicodeNames) {entry : Name × Node}
    (member : entry ∈ node.entries) : Text.IsUtf8 entry.1.bytes ∧ entry.2.HasUnicodeNames := by
  cases unicode with
  | file contents => cases member
  | link target => cases member
  | directory fault named below => exact ⟨named entry member, below entry member⟩

theorem mem_of_lookup {entries : List (Name × Node)} {name : Name} {node : Node}
    (found : entries.lookup name = some node) : (name, node) ∈ entries := by
  rcases List.lookup_eq_some_iff.mp found with ⟨front, back, rfl, -⟩
  exact List.mem_append_right front List.mem_cons_self

theorem HasUnicodeNames.at? {node child : Node} {place : Location} (unicode : node.HasUnicodeNames)
    (found : node.at? place = some child) : child.HasUnicodeNames := by
  induction place generalizing node with
  | nil =>
      rcases Option.some.inj found with rfl
      exact unicode
  | cons name rest ih =>
      rcases Option.bind_eq_some_iff.mp found with ⟨next, held, onward⟩
      exact ih (unicode.entry (mem_of_lookup held)).2 onward

theorem HasUnicodeNames.reaches {node target : Node} {names : Location}
    (unicode : node.HasUnicodeNames) (reached : node.Reaches names target) :
    ∀ name ∈ names, Text.IsUtf8 name.bytes := by
  induction reached with
  | here node => simp
  | entry listed allowed onward ih =>
      have first := unicode.entry listed
      exact List.forall_mem_cons.mpr ⟨first.1, ih first.2⟩

end Node

def Progress.ahead? : Progress → Option (List Component)
  | .arrived _ => some []
  | .linked _ _ rest => some rest
  | .missing => none

namespace FileTree

variable {root : Node}

theorem isUtf8_of_entry (unicode : root.HasUnicodeNames) {place : Location} {name : Name}
    {node : Node} (held : ((root.at? place).map Node.entries).bind (·.lookup name) = some node) :
    Text.IsUtf8 name.bytes := by
  rcases Option.bind_eq_some_iff.mp held with ⟨entries, listing, found⟩
  rcases Option.map_eq_some_iff.mp listing with ⟨directory, standing, rfl⟩
  exact ((unicode.at? standing).entry (Node.mem_of_lookup found)).1

theorem isUtf8_or_later {first name : Name} {rest : List Component}
    (text : Text.IsUtf8 first.bytes) (member : .name name ∈ .name first :: rest) :
    Text.IsUtf8 name.bytes ∨ .name name ∈ rest := by
  rcases List.mem_cons.mp member with same | later
  · rcases Component.name.inj same with rfl
    exact .inl text
  · exact .inr later

/-- A name that a walk has passed is a name in the tree. -/
theorem isUtf8_of_advance (unicode : root.HasUnicodeNames) {place : Location}
    {steps ahead : List Component} {name : Name}
    (walked : (advance root place steps).ahead? = some ahead) (member : .name name ∈ steps) :
    Text.IsUtf8 name.bytes ∨ .name name ∈ ahead := by
  induction steps generalizing place with
  | nil => cases member
  | cons step rest ih =>
      cases step with
      | root => exact ih walked (by simpa using member)
      | here =>
          rw [advance] at walked
          split at walked
          · exact ih walked (by simpa using member)
          · cases walked
      | up =>
          rw [advance] at walked
          split at walked
          · exact ih walked (by simpa using member)
          · cases walked
      | name first =>
          rw [advance] at walked
          split at walked
          · next target held =>
              rcases Option.some.inj walked with rfl
              exact isUtf8_or_later (isUtf8_of_entry unicode held) member
          · next node _ held =>
              rcases isUtf8_or_later (isUtf8_of_entry unicode held) member with text | later
              · exact .inl text
              · exact ih walked later
          · cases walked

theorem isUtf8_of_resolveWithin (unicode : root.HasUnicodeNames) {links : Nat}
    {start place : Location} {steps : List Component} {name : Name}
    (arrived : resolveWithin root links start steps = some place) (member : .name name ∈ steps) :
    Text.IsUtf8 name.bytes := by
  fun_induction resolveWithin root links start steps with
  | case1 links start steps there walk =>
      rcases isUtf8_of_advance unicode (congrArg Progress.ahead? walk) member with text | ahead
      · exact text
      · cases ahead
  | case2 links start steps walk => cases arrived
  | case3 start steps there target rest walk => cases arrived
  | case4 start steps there target rest walk links ih =>
      -- what is left behind the link is walked again, after the steps of its target
      rcases isUtf8_of_advance unicode (congrArg Progress.ahead? walk) member with text | ahead
      · exact text
      · exact ih arrived (List.mem_append_right _ ahead)

variable {tree : FileTree}

theorem isText_of_find? (unicode : tree.root.HasUnicodeNames) {path : Path} {node : Node}
    (found : tree.find? path = some node) : path.IsText := by
  apply Path.isText_of_steps
  intro name member
  rcases Option.bind_eq_some_iff.mp found with ⟨place, resolved, -⟩
  rw [resolve?] at resolved
  split at resolved
  · cases resolved
  · exact isUtf8_of_resolveWithin unicode resolved member

theorem isText_of_collectFiles (unicode : tree.root.HasUnicodeNames) {paths files : List Path}
    {extensions : List String} (collected : collectFiles tree paths extensions = .ok files) :
    ∀ file ∈ files, file.IsText := by
  intro file member
  rcases (collected_of_collectFiles collected).sound file member with ⟨path, -, offered⟩
  cases offered with
  | itself found => exact isText_of_find? unicode found
  | below found walked reached matching =>
      rcases Option.bind_eq_some_iff.mp found with ⟨place, -, standing⟩
      exact (isText_of_find? unicode found).descend ((unicode.at? standing).reaches reached)

end FileTree

end QuoteLint
