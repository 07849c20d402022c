import QuoteLint.Proofs.Files.Order
import QuoteLint.Proofs.Files.Paths

/-! Which files are found under the given paths. A walk below a directory comes to all that names
lead to from there, through no link and into no hidden directory. The files of all walks and the
files that are given themselves are then brought into order, each of them once, so that it matters
only which paths are given. -/

namespace QuoteLint

def Name.IsHidden (name : Name) : Prop := ∃ rest : String, name = .ofText ("." ++ rest)

theorem isHidden_iff (name : Name) : isHidden name = true ↔ name.IsHidden := by
  rw [isHidden, Option.any_eq_true, Name.IsHidden]
  constructor
  · intro hidden
    rcases hidden with ⟨text, decoded, head⟩
    rcases List.head?_eq_some_iff.mp (beq_iff_eq.mp head) with ⟨rest, cut⟩
    refine ⟨String.ofList rest, ?_⟩
    have whole : text = "." ++ String.ofList rest := by
      apply String.toList_inj.mp
      simp [cut]
    rw [Name.ext_iff, (Text.decode?_eq_some_iff _ text).mp decoded, whole]
    rfl
  · intro hidden
    rcases hidden with ⟨rest, rfl⟩
    exact ⟨"." ++ rest, Name.text?_ofText _, by simp⟩

theorem isHidden_eq_false_iff (name : Name) : isHidden name = false ↔ ¬ name.IsHidden := by
  rw [← isHidden_iff, Bool.not_eq_true]

namespace Node

theorem entries_induction {motive : Node → Prop} (file : ∀ contents, motive (.file contents))
    (link : ∀ target, motive (.link target))
    (directory : ∀ entries fault, (∀ entry ∈ entries, motive entry.2) →
      motive (.directory entries fault)) :
    ∀ node, motive node
  | .file contents => file contents
  | .link target => link target
  | .directory entries fault => directory entries fault fun entry member =>
      have smaller : sizeOf entry.2 < sizeOf (Node.directory entries fault) := by
        have whole := List.sizeOf_lt_of_mem member
        rcases entry with ⟨name, node⟩
        simp only [Prod.mk.sizeOf_spec, Node.directory.sizeOf_spec] at whole ⊢
        omega
      entries_induction file link directory entry.2
  termination_by node => sizeOf node
  decreasing_by exact smaller

/-- The names lead down from a node to another one. No way leads through a link or into a hidden
directory. -/
inductive Reaches : Node → Location → Node → Prop
  | here (node : Node) : Reaches node [] node
  | entry {entries : List (Name × Node)} {fault : Option String} {name : Name} {child target : Node}
      {rest : Location} (listed : (name, child) ∈ entries)
      (allowed : child.isDirectory = true → ¬ name.IsHidden)
      (onward : Reaches child rest target) :
        Reaches (.directory entries fault) (name :: rest) target

theorem allowed_iff (name : Name) (child : Node) :
    (isHidden name && child.isDirectory) = false ↔
      (child.isDirectory = true → ¬ name.IsHidden) := by
  rw [← isHidden_eq_false_iff]
  cases isHidden name <;> cases child.isDirectory <;> simp

end Node

def Path.descend (path : Path) (names : Location) : Path := names.foldl Path.below path

section Walk

variable (extensions : List String)

theorem mem_filesIn_iff (directory file : Path) (entries : List (Name × Node)) :
    file ∈ filesIn extensions directory entries ↔
      ∃ entry ∈ entries, (entry.2.isDirectory = true → ¬ entry.1.IsHidden) ∧
        file ∈ filesOf extensions (directory.below entry.1) entry.2 := by
  induction entries with
  | nil => simp [filesIn]
  | cons entry rest ih =>
      rcases entry with ⟨name, node⟩
      simp only [filesIn, List.mem_append, ih, List.mem_cons, exists_eq_or_imp, ← Node.allowed_iff]
      apply or_congr_left
      cases isHidden name && node.isDirectory <;> simp

theorem reached_of_mem_filesOf (node : Node) (path file : Path)
    (found : file ∈ filesOf extensions path node) :
    ∃ names contents, node.Reaches names (.file contents) ∧ file = path.descend names ∧
      file.hasExtension extensions = true := by
  induction node using Node.entries_induction generalizing path with
  | file contents =>
      rw [filesOf] at found
      split at found
      · next matching =>
          rcases List.mem_singleton.mp found with rfl
          exact ⟨[], contents, .here _, rfl, matching⟩
      · cases found
  | link target => cases found
  | directory entries fault ih =>
      rcases (mem_filesIn_iff extensions path file entries).mp found with
        ⟨⟨name, child⟩, listed, allowed, below⟩
      rcases ih (name, child) listed (path.below name) below with
        ⟨names, contents, reached, same, matching⟩
      exact ⟨name :: names, contents, .entry listed allowed reached, same, matching⟩

theorem mem_filesOf_of_reached {node : Node} {names : Location} {contents : Except String ByteArray}
    (reached : node.Reaches names (.file contents)) (path : Path)
    (matching : (path.descend names).hasExtension extensions = true) :
    path.descend names ∈ filesOf extensions path node := by
  generalize held : Node.file contents = target at reached
  induction reached generalizing path with
  | here node =>
      subst held
      have itself : path.hasExtension extensions = true := matching
      rw [filesOf, if_pos itself]
      exact List.mem_singleton_self path
  | @entry entries fault name child target rest listed allowed onward ih =>
      apply (mem_filesIn_iff extensions path _ entries).mpr
      exact ⟨(name, child), listed, allowed, ih (path.below name) matching held⟩

end Walk

section Listing

end Listing

namespace FileTree

variable (tree : FileTree) (extensions : List String)

def IsPresent (path : Path) : Prop :=
  ∃ node, tree.find? path = some node ∧ (node.isDirectory = true ∨ node.isFile = true)

/-- What a given path stands for: itself, if it leads to a file, or the files below it with one of
the extensions, if it leads to a directory. -/
inductive Offers (path : Path) : Path → Prop
  | itself {contents : Except String ByteArray} (found : tree.find? path = some (.file contents)) :
      Offers path path
  | below {directory : Node} {names : Location} {contents : Except String ByteArray}
      (found : tree.find? path = some directory) (walked : directory.isDirectory = true)
      (reached : directory.Reaches names (.file contents))
      (matching : (path.descend names).hasExtension extensions = true) :
      Offers path (path.descend names)

end FileTree

section Expand

variable {tree : FileTree} {extensions : List String} {path : Path}

theorem expand_cases (tree : FileTree) (extensions : List String) (path : Path) :
    (∃ node, tree.find? path = some node ∧ node.isDirectory = true ∧ unlisted? path node = none ∧
      expand tree extensions path = .ok (filesOf extensions path node)) ∨
    (∃ node below cause, tree.find? path = some node ∧ unlisted? path node = some (below, cause) ∧
      expand tree extensions path = .error (.unwalkable path below cause)) ∨
    (∃ contents, tree.find? path = some (.file contents) ∧
      expand tree extensions path = .ok [path]) ∨
    (¬ tree.IsPresent path ∧ expand tree extensions path = .error (.notFound path)) := by
  unfold expand
  cases found : tree.find? path with
  | none =>
      have absent : ¬ tree.IsPresent path := by
        intro present
        rcases present with ⟨node, standing, -⟩
        rw [found] at standing
        cases standing
      exact .inr (.inr (.inr ⟨absent, rfl⟩))
  | some node =>
      cases node with
      | file contents => exact .inr (.inr (.inl ⟨contents, rfl, rfl⟩))
      | directory entries fault =>
          cases walk : unlisted? path (.directory entries fault) with
          | none => exact .inl ⟨_, rfl, rfl, walk, by simp [walk, filesOf]⟩
          | some place => exact .inr (.inl ⟨_, place.1, place.2, rfl, walk, by simp [walk]⟩)
      | link target =>
          have absent : ¬ tree.IsPresent path := by
            intro present
            rcases present with ⟨node, standing, kind⟩
            rw [found] at standing
            rcases Option.some.inj standing with rfl
            rcases kind with directory | file
            · cases directory
            · cases file
          exact .inr (.inr (.inr ⟨absent, rfl⟩))

theorem found_of_expand {own : List Path} (expanded : expand tree extensions path = .ok own) :
    (∃ node, tree.find? path = some node ∧ node.isDirectory = true ∧ unlisted? path node = none ∧
      own = filesOf extensions path node) ∨
    ∃ contents, tree.find? path = some (.file contents) ∧ own = [path] := by
  rcases expand_cases tree extensions path with
    ⟨node, found, walked, listed, done⟩ | ⟨node, below, cause, -, -, failed⟩ |
    ⟨contents, found, done⟩ | ⟨-, failed⟩
  · exact .inl ⟨node, found, walked, listed, Except.ok.inj (expanded.symm.trans done)⟩
  · cases expanded.symm.trans failed
  · exact .inr ⟨contents, found, Except.ok.inj (expanded.symm.trans done)⟩
  · cases expanded.symm.trans failed

theorem mem_expand_iff {own : List Path} (expanded : expand tree extensions path = .ok own)
    (file : Path) : file ∈ own ↔ tree.Offers extensions path file := by
  rcases found_of_expand expanded with ⟨node, found, walked, -, rfl⟩ | ⟨contents, found, rfl⟩
  · constructor
    · intro member
      rcases reached_of_mem_filesOf extensions node path file member with
        ⟨names, contents, reached, rfl, matching⟩
      exact .below found walked reached matching
    · intro offered
      cases offered with
      | itself other =>
          rcases Option.some.inj (found.symm.trans other) with rfl
          cases walked
      | below other _ reached matching =>
          rcases Option.some.inj (found.symm.trans other) with rfl
          exact mem_filesOf_of_reached extensions reached path matching
  · constructor
    · intro member
      rcases List.mem_singleton.mp member with rfl
      exact .itself found
    · intro offered
      cases offered with
      | itself other => exact List.mem_singleton_self path
      | below other walked =>
          rcases Option.some.inj (found.symm.trans other) with rfl
          cases walked

end Expand

section ExpandAll

variable {tree : FileTree} {extensions : List String} {paths files : List Path}

theorem expandAll_cons_eq_ok {path : Path} {rest : List Path}
    (expanded : expandAll tree extensions (path :: rest) = .ok files) :
    ∃ own more, expand tree extensions path = .ok own ∧ expandAll tree extensions rest = .ok more ∧
      files = own ++ more := by
  rw [expandAll] at expanded
  cases first : expand tree extensions path with
  | error fault =>
      rw [first] at expanded
      cases expanded
  | ok own =>
      cases later : expandAll tree extensions rest with
      | error fault =>
          rw [first, later] at expanded
          cases expanded
      | ok more =>
          rw [first, later] at expanded
          exact ⟨own, more, rfl, rfl, (Except.ok.inj expanded).symm⟩

theorem mem_expandAll_iff (expanded : expandAll tree extensions paths = .ok files) (file : Path) :
    file ∈ files ↔ ∃ path ∈ paths, tree.Offers extensions path file := by
  induction paths generalizing files with
  | nil =>
      rcases Except.ok.inj expanded with rfl
      simp
  | cons path rest ih =>
      rcases expandAll_cons_eq_ok expanded with ⟨own, more, first, later, rfl⟩
      rw [List.mem_append, mem_expand_iff first, ih later, List.exists_mem_cons_iff]

end ExpandAll

/-- The files are those that the paths stand for, strictly in order. A file may be spelled in
another way than the one that stands for it. -/
structure Collected (tree : FileTree) (paths : List Path) (extensions : List String)
    (files : List Path) : Prop where
  increasing : files.Pairwise Path.Before
  distinct : files.Pairwise fun a b => a.alike b = false
  sound : ∀ file ∈ files, ∃ path ∈ paths, tree.Offers extensions path file
  complete : ∀ path ∈ paths, ∀ file, tree.Offers extensions path file →
    ∃ kept ∈ files, kept.alike file = true

section Collect

variable {tree : FileTree} {extensions : List String} {paths files : List Path}

theorem collectFiles_eq_ok_iff :
    collectFiles tree paths extensions = .ok files ↔
      ∃ found, expandAll tree extensions paths = .ok found ∧
        dropRepeats (found.mergeSort Path.le) = files := by
  rw [collectFiles]
  cases expandAll tree extensions paths with
  | error fault => exact iff_of_false nofun nofun
  | ok found =>
      constructor
      · intro collected
        exact ⟨found, rfl, Except.ok.inj collected⟩
      · intro kept
        rcases kept with ⟨found, same, rfl⟩
        rcases Except.ok.inj same with rfl
        rfl

theorem collected_of_collectFiles (done : collectFiles tree paths extensions = .ok files) :
    Collected tree paths extensions files := by
  rcases collectFiles_eq_ok_iff.mp done with ⟨found, expanded, rfl⟩
  have increasing := dropRepeats_before (sorted_mergeSort found)
  refine ⟨increasing, increasing.imp Path.alike_of_before, ?_, ?_⟩
  · intro file kept
    have member := mem_of_mem_dropRepeats kept
    rw [List.mem_mergeSort] at member
    exact (mem_expandAll_iff expanded file).mp member
  · intro path given file offered
    have member : file ∈ found.mergeSort Path.le := by
      rw [List.mem_mergeSort]
      exact (mem_expandAll_iff expanded file).mpr ⟨path, given, offered⟩
    rcases alike_of_mem member with ⟨kept, present, same⟩
    exact ⟨kept, present, (Path.alike_iff kept file).mpr same⟩

theorem collectFiles_of_sorted {found : List Path}
    (expanded : (expandAll tree extensions paths).toOption = some found)
    (sorted : found.Pairwise fun a b => Path.le a b = true) :
    collectFiles tree paths extensions = .ok (dropRepeats found) := by
  apply collectFiles_eq_ok_iff.mpr
  refine ⟨found, ?_, congrArg dropRepeats (List.mergeSort_of_pairwise sorted)⟩
  cases outcome : expandAll tree extensions paths with
  | error fault => simp [outcome, Except.toOption] at expanded
  | ok files => simpa [outcome, Except.toOption] using expanded

end Collect

end QuoteLint
