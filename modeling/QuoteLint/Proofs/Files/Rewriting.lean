import QuoteLint.Collect
import QuoteLint.Proofs.Files.Lookup

/-! Other contents in one file of a tree, which may be that it cannot be read. Lookups and the
search for files see names and kinds only, so that all paths lead where they led before, the same
files are found, and only that one file reads differently. -/

namespace QuoteLint

namespace Node

/-- Gives other contents to the file at a place, if there is one. -/
def rewrite (contents : Except String ByteArray) : Location → Node → Node
  | [], .file _ => .file contents
  | name :: rest, .directory entries fault =>
    .directory (entries.map fun entry =>
      (entry.1, if entry.1 = name then entry.2.rewrite contents rest else entry.2)) fault
  | _, node => node

section Rewrite

variable (contents : Except String ByteArray)

theorem rewrite_link (place : Location) (target : Path) :
    (link target).rewrite contents place = .link target := by
  cases place <;> rfl

theorem exists_rewrite_file (place : Location) (old : Except String ByteArray) :
    ∃ new, (file old).rewrite contents place = .file new := by
  cases place with
  | nil => exact ⟨contents, rfl⟩
  | cons name rest => exact ⟨old, rfl⟩

theorem exists_rewrite_directory (place : Location) (entries : List (Name × Node))
    (fault : Option String) :
    ∃ new, (directory entries fault).rewrite contents place = .directory new fault := by
  cases place with
  | nil => exact ⟨entries, rfl⟩
  | cons name rest => exact ⟨_, rfl⟩

theorem isDirectory_rewrite (place : Location) (node : Node) :
    (node.rewrite contents place).isDirectory = node.isDirectory := by
  cases node with
  | file old =>
      obtain ⟨new, same⟩ := exists_rewrite_file contents place old
      rw [same]
      rfl
  | directory entries fault =>
      obtain ⟨new, same⟩ := exists_rewrite_directory contents place entries fault
      rw [same]
      rfl
  | link target => rw [rewrite_link]

theorem lookup_rewrite (name other : Name) (rest : Location) (entries : List (Name × Node)) :
    (entries.map fun entry =>
        (entry.1, if entry.1 = name then entry.2.rewrite contents rest else entry.2)).lookup other =
      (entries.lookup other).map fun held =>
        if other = name then held.rewrite contents rest else held := by
  induction entries with
  | nil => rfl
  | cons entry more ih =>
      obtain ⟨key, node⟩ := entry
      by_cases same : other = key
      · simp [same]
      · have differs : (other == key) = false := by simpa using same
        simpa [List.lookup_cons, differs] using ih

def rewriteFrom : Location → Location → Node → Node
  | place, [] => rewrite contents place
  | [], _ :: _ => id
  | name :: rest, other :: more => if other = name then rewriteFrom rest more else id

theorem rewriteFrom_nil (place : Location) :
    rewriteFrom contents place [] = rewrite contents place := by
  cases place <;> rfl

theorem rewriteFrom_cons (name other : Name) (rest more : Location) :
    rewriteFrom contents (name :: rest) (other :: more) =
      if other = name then rewriteFrom contents rest more else id := rfl

theorem at?_rewrite (place other : Location) (node : Node) :
    (node.rewrite contents place).at? other =
      (node.at? other).map (rewriteFrom contents place other) := by
  induction other generalizing place node with
  | nil => rw [rewriteFrom_nil]; rfl
  | cons name more ih =>
      cases node with
      | file old => cases place <;> rfl
      | link target => cases place <;> rfl
      | directory entries fault =>
          cases place with
          | nil =>
              have unchanged : rewriteFrom contents [] (name :: more) = id := rfl
              rw [unchanged, Option.map_id]
              rfl
          | cons first rest =>
              simp only [rewrite, at?, Node.entries, lookup_rewrite, rewriteFrom_cons]
              cases entries.lookup name with
              | none => rfl
              | some held =>
                  split
                  · exact ih rest held
                  · simp

theorem rewriteFrom_self (place : Location) :
    rewriteFrom contents place place = rewrite contents [] := by
  induction place with
  | nil => rfl
  | cons name rest ih => rw [rewriteFrom_cons, if_pos rfl, ih]

theorem rewriteFrom_file (place other : Location) (old : Except String ByteArray)
    (apart : other ≠ place) : rewriteFrom contents place other (.file old) = .file old := by
  induction other generalizing place with
  | nil =>
      cases place with
      | nil => exact absurd rfl apart
      | cons name rest => rfl
  | cons name more ih =>
      cases place with
      | nil => rfl
      | cons first rest =>
          rw [rewriteFrom_cons]
          split
          · next same => exact ih rest fun equal => apart (by rw [same, equal])
          · rfl

theorem rewriteFrom_cases (place other : Location) :
    rewriteFrom contents place other = id ∨
      ∃ below, rewriteFrom contents place other = rewrite contents below := by
  induction other generalizing place with
  | nil => exact .inr ⟨place, rewriteFrom_nil contents place⟩
  | cons name more ih =>
      cases place with
      | nil => exact .inl rfl
      | cons first rest =>
          rw [rewriteFrom_cons]
          split
          · exact ih rest
          · exact .inl rfl

theorem rewriteFrom_link (place other : Location) (target : Path) :
    rewriteFrom contents place other (.link target) = .link target := by
  rcases rewriteFrom_cases contents place other with unchanged | ⟨below, changed⟩
  · rw [unchanged, id]
  · rw [changed, rewrite_link]

theorem exists_rewriteFrom_file (place other : Location) (old : Except String ByteArray) :
    ∃ new, rewriteFrom contents place other (.file old) = .file new := by
  rcases rewriteFrom_cases contents place other with unchanged | ⟨below, changed⟩
  · exact ⟨old, by rw [unchanged, id]⟩
  · rw [changed]
    exact exists_rewrite_file contents below old

theorem exists_rewriteFrom_directory (place other : Location) (entries : List (Name × Node))
    (fault : Option String) :
    ∃ new, rewriteFrom contents place other (.directory entries fault) = .directory new fault := by
  rcases rewriteFrom_cases contents place other with unchanged | ⟨below, changed⟩
  · exact ⟨entries, by rw [unchanged, id]⟩
  · rw [changed]
    exact exists_rewrite_directory contents below entries fault

theorem isDirectoryAt_rewrite (place other : Location) (node : Node) :
    (node.rewrite contents place).isDirectoryAt other = node.isDirectoryAt other := by
  rw [isDirectoryAt, isDirectoryAt, at?_rewrite]
  cases node.at? other with
  | none => rfl
  | some held =>
      rcases rewriteFrom_cases contents place other with unchanged | ⟨below, changed⟩
      · rw [unchanged, Option.map_id, id]
      · rw [changed, Option.map_some, Option.any_some, Option.any_some, isDirectory_rewrite]

end Rewrite

theorem at?_append (node : Node) (front back : Location) :
    node.at? (front ++ back) = (node.at? front).bind (·.at? back) := by
  induction front generalizing node with
  | nil => rfl
  | cons name rest ih =>
      simp only [List.cons_append, at?]
      cases node.entries.lookup name with
      | none => rfl
      | some child => exact ih child

theorem at?_snoc (node : Node) (place : Location) (name : Name) :
    node.at? (place ++ [name]) = ((node.at? place).map entries).bind (·.lookup name) := by
  rw [at?_append]
  cases node.at? place with
  | none => rfl
  | some held => simp [at?]

end Node

namespace FileTree

theorem advance_name (root : Node) (place : Location) (name : Name) (rest : List Component) :
    advance root place (.name name :: rest) =
      match root.at? (place ++ [name]) with
      | some (.link target) => .linked place target rest
      | some _ => advance root (place ++ [name]) rest
      | none => .missing := by
  cases held : root.at? (place ++ [name]) with
  | none =>
      rw [Node.at?_snoc] at held
      simp only [advance, held]
  | some node =>
      rw [Node.at?_snoc] at held
      cases node <;> simp only [advance, held]

variable (contents : Except String ByteArray) (place : Location)

theorem advance_rewrite (root : Node) (start : Location) (steps : List Component) :
    advance (root.rewrite contents place) start steps = advance root start steps := by
  induction steps generalizing start with
  | nil => rfl
  | cons step rest ih =>
      cases step with
      | root => exact ih []
      | here => rw [advance, advance, Node.isDirectoryAt_rewrite, ih]
      | up => rw [advance, advance, Node.isDirectoryAt_rewrite, ih]
      | name name =>
          rw [advance_name, advance_name, Node.at?_rewrite]
          cases root.at? (start ++ [name]) with
          | none => rfl
          | some node =>
              cases node with
              | link target => rw [Option.map_some, Node.rewriteFrom_link]
              | file old =>
                  obtain ⟨new, same⟩ :=
                    Node.exists_rewriteFrom_file contents place (start ++ [name]) old
                  rw [Option.map_some, same]
                  exact ih _
              | directory entries fault =>
                  obtain ⟨new, same⟩ :=
                    Node.exists_rewriteFrom_directory contents place (start ++ [name]) entries fault
                  rw [Option.map_some, same]
                  exact ih _

theorem resolveWithin_rewrite (root : Node) (links : Nat) (start : Location)
    (steps : List Component) :
    resolveWithin (root.rewrite contents place) links start steps =
      resolveWithin root links start steps := by
  induction links generalizing start steps with
  | zero => rw [resolveWithin, resolveWithin, advance_rewrite]
  | succ links ih =>
      rw [resolveWithin, resolveWithin, advance_rewrite]
      simp only [ih]

def withContents (tree : FileTree) : FileTree :=
  { tree with root := tree.root.rewrite contents place }

theorem resolve?_withContents (tree : FileTree) (path : Path) :
    (tree.withContents contents place).resolve? path = tree.resolve? path := by
  rw [resolve?, resolve?, withContents, resolveWithin_rewrite]

theorem find?_withContents (tree : FileTree) (path : Path) :
    (tree.withContents contents place).find? path =
      (tree.resolve? path).bind fun other =>
        (tree.root.at? other).map (Node.rewriteFrom contents place other) := by
  rw [find?, resolve?_withContents]
  cases tree.resolve? path with
  | none => rfl
  | some other => exact Node.at?_rewrite contents place other tree.root

theorem place?_of_resolve? {tree : FileTree} {path : Path} {other : Location}
    (resolved : tree.resolve? path = some other) : tree.place? path = some other := by
  rw [resolve?] at resolved
  split at resolved
  · cases resolved
  · exact resolved

theorem readText?_of_not_file {tree : FileTree} {path : Path}
    (other : ∀ held, tree.find? path ≠ some (.file held)) : tree.readText? path = none := by
  rw [Option.eq_none_iff_forall_ne_some]
  intro text read
  exact other _ ((tree.readText?_eq_some_iff path text).mp read)

/-- Reading the contents gives no text: the system refuses, or the bytes are no UTF-8. -/
def IsNoText : Prop := ∀ text : String, contents ≠ .ok text.toUTF8

theorem readText?_withContents_there {tree : FileTree} {path : Path}
    (there : tree.resolve? path = some place) (broken : IsNoText contents) :
    (tree.withContents contents place).readText? path = none := by
  have found := tree.find?_withContents contents place path
  rw [there, Option.bind_some, Node.rewriteFrom_self] at found
  rw [Option.eq_none_iff_forall_ne_some]
  intro text read
  rw [readText?_eq_some_iff, found] at read
  cases standing : tree.root.at? place with
  | none => simp [standing] at read
  | some node =>
      rw [standing, Option.map_some, Option.some.injEq] at read
      cases node with
      | file old => exact broken text (Node.file.inj read)
      | directory entries fault => cases read
      | link target => cases read

theorem find?_eq_ofText_apart {tree : FileTree} {path : Path} {other : Location}
    (resolved : tree.resolve? path = some other) (apart : other ≠ place) (text : String) :
    (tree.withContents contents place).find? path = some (.ofText text) ↔
      tree.find? path = some (.ofText text) := by
  have before : tree.find? path = tree.root.at? other := by rw [find?, resolved, Option.bind_some]
  have found := tree.find?_withContents contents place path
  rw [resolved, Option.bind_some] at found
  rw [found, before]
  cases tree.root.at? other with
  | none => exact Iff.rfl
  | some node =>
      rw [Option.map_some]
      cases node with
      | file old => rw [Node.rewriteFrom_file contents place other old apart]
      | directory entries fault =>
          rcases Node.exists_rewriteFrom_directory contents place other entries fault with
            ⟨new, changed⟩
          simp [changed, Node.ofText]
      | link target => rw [Node.rewriteFrom_link]

theorem readText?_withContents_apart {tree : FileTree} {path : Path} {other : Location}
    (resolved : tree.resolve? path = some other) (apart : other ≠ place) :
    (tree.withContents contents place).readText? path = tree.readText? path := by
  apply Option.ext
  intro text
  rw [readText?_eq_some_iff, readText?_eq_some_iff,
    find?_eq_ofText_apart contents place resolved apart]

/-- After contents that are no text are put at a place, no path that leads there can be read, and
every other path reads as before. -/
theorem readText?_withContents (tree : FileTree) (path : Path) (broken : IsNoText contents) :
    (tree.withContents contents place).readText? path =
      if tree.place? path = some place then none else tree.readText? path := by
  cases resolved : tree.resolve? path with
  | none =>
      have found := tree.find?_withContents contents place path
      have before : tree.readText? path = none := readText?_of_not_file (by simp [find?, resolved])
      rw [before, ite_self]
      exact readText?_of_not_file (by simp [found, resolved])
  | some other =>
      rw [place?_of_resolve? resolved]
      by_cases same : other = place
      · rw [if_pos (congrArg some same)]
        rw [same] at resolved
        exact readText?_withContents_there contents place resolved broken
      · rw [if_neg (mt Option.some.inj same)]
        exact readText?_withContents_apart contents place resolved same

end FileTree

section Search

variable (contents : Except String ByteArray) (extensions : List String)

theorem filesIn_rewrite (directory : Path) (name : Name) (rest : Location)
    (entries : List (Name × Node))
    (below : ∀ path node, filesOf extensions path (Node.rewrite contents rest node) =
      filesOf extensions path node) :
    filesIn extensions directory
        (entries.map fun entry =>
          (entry.1, if entry.1 = name then entry.2.rewrite contents rest else entry.2)) =
      filesIn extensions directory entries := by
  induction entries with
  | nil => rfl
  | cons entry more ih =>
      obtain ⟨key, node⟩ := entry
      rw [List.map_cons, filesIn, filesIn, ih]
      split
      · rw [Node.isDirectory_rewrite, below]
      · rfl

theorem filesOf_rewrite (place : Location) (path : Path) (node : Node) :
    filesOf extensions path (node.rewrite contents place) = filesOf extensions path node := by
  induction place generalizing path node with
  | nil =>
      cases node with
      | file old => rfl
      | directory entries fault => rfl
      | link target => rfl
  | cons name rest ih =>
      cases node with
      | file old => rfl
      | directory entries fault =>
          exact filesIn_rewrite contents extensions path name rest entries ih
      | link target => rfl

theorem unlistedIn?_rewrite (directory : Path) (name : Name) (rest : Location)
    (entries : List (Name × Node))
    (below : ∀ path node, unlisted? path (Node.rewrite contents rest node) = unlisted? path node) :
    unlistedIn? directory
        (entries.map fun entry =>
          (entry.1, if entry.1 = name then entry.2.rewrite contents rest else entry.2)) =
      unlistedIn? directory entries := by
  induction entries with
  | nil => rfl
  | cons entry more ih =>
      obtain ⟨key, node⟩ := entry
      rw [List.map_cons, unlistedIn?, unlistedIn?, ih]
      split
      · rfl
      · split
        · rw [below]
        · rfl

theorem unlisted?_rewrite (place : Location) (path : Path) (node : Node) :
    unlisted? path (node.rewrite contents place) = unlisted? path node := by
  induction place generalizing path node with
  | nil =>
      cases node with
      | file old => rfl
      | directory entries fault => rfl
      | link target => rfl
  | cons name rest ih =>
      cases node with
      | file old => rfl
      | directory entries fault =>
          rw [Node.rewrite, unlisted?, unlisted?,
            unlistedIn?_rewrite contents path name rest entries ih]
      | link target => rfl

variable (place : Location) (tree : FileTree)

theorem expand_withContents (path : Path) :
    expand (tree.withContents contents place) extensions path = expand tree extensions path := by
  rw [expand, expand, FileTree.find?_withContents, FileTree.find?]
  cases tree.resolve? path with
  | none => rfl
  | some other =>
      rw [Option.bind_some, Option.bind_some]
      cases tree.root.at? other with
      | none => rfl
      | some node =>
          rcases Node.rewriteFrom_cases contents place other with unchanged | ⟨below, changed⟩
          · rw [unchanged, Option.map_id, id]
          · rw [changed, Option.map_some]
            cases node with
            | file old =>
                obtain ⟨new, same⟩ := Node.exists_rewrite_file contents below old
                rw [same]
            | link target => rw [Node.rewrite_link]
            | directory entries fault =>
                cases below with
                | nil => rfl
                | cons name rest =>
                    have listed :=
                      unlisted?_rewrite contents (name :: rest) path (.directory entries fault)
                    have files := filesOf_rewrite contents extensions rest
                    rw [Node.rewrite] at listed ⊢
                    simp only [listed,
                      filesIn_rewrite contents extensions path name rest entries files]

theorem expandAll_withContents (paths : List Path) :
    expandAll (tree.withContents contents place) extensions paths =
      expandAll tree extensions paths := by
  induction paths with
  | nil => rfl
  | cons path rest ih => rw [expandAll, expandAll, expand_withContents, ih]

theorem collectFiles_withContents (paths : List Path) :
    collectFiles (tree.withContents contents place) paths extensions =
      collectFiles tree paths extensions := by
  rw [collectFiles, collectFiles, expandAll_withContents]

end Search

end QuoteLint
