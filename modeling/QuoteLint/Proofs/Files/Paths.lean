import QuoteLint.Proofs.Files.Lookup

/-! The segments of a path, and paths with dots in front. Such a path is longer and leads to the
same place. -/

namespace QuoteLint

namespace Path

def IsName (segment : List UInt8) : Prop :=
  segment ≠ [] ∧ segment ≠ [dot] ∧ segment ≠ [dot, dot]

instance (segment : List UInt8) : Decidable (IsName segment) :=
  inferInstanceAs (Decidable (_ ∧ _ ∧ _))

theorem piecesFrom_name {segment : List UInt8} (named : IsName segment) (offset : Nat)
    (front : Bool) : (piecesFrom offset front [segment]).map (·.1) = [.name ⟨segment⟩] := by
  rcases named with ⟨nonempty, notHere, notUp⟩
  simp [piecesFrom, nonempty, notHere, notUp]

theorem getLast?_piecesFrom {segment : List UInt8} (named : IsName segment)
    (earlier : List (List UInt8)) (offset : Nat) (front : Bool) :
    ((piecesFrom offset front (earlier ++ [segment])).map (·.1)).getLast? =
      some (.name ⟨segment⟩) := by
  induction earlier generalizing offset front with
  | nil =>
      rw [List.nil_append, piecesFrom_name named]
      rfl
  | cons first rest ih =>
      have later := ih (offset + first.length + 1) false
      have longer (component : Component) (stop : Nat) :
          (((component, stop) ::
            piecesFrom (offset + first.length + 1) false (rest ++ [segment])).map (·.1)).getLast? =
              some (.name ⟨segment⟩) := by
        rw [List.map_cons, List.getLast?_cons, later]
        rfl
      simp only [List.cons_append, piecesFrom]
      split
      · exact later
      · split
        · split
          · exact longer _ _
          · exact later
        · split <;> exact longer _ _

/-- The file name of a path is its last segment, if that is a name. -/
theorem fileName?_of_segments {path : Path} {earlier : List (List UInt8)} {segment : List UInt8}
    (cut : path.segments = earlier ++ [segment]) (named : IsName segment) :
    path.fileName? = some ⟨segment⟩ := by
  have last := getLast?_piecesFrom named earlier 0 true
  have whole : path.components.getLast? = some (.name ⟨segment⟩) := by
    rw [components, pieces, cut]
    split
    · rw [List.map_cons, List.getLast?_cons, last]
      rfl
    · exact last
  rw [fileName?, whole]

def dotted (path : Path) : Nat → Path
  | 0 => path
  | n + 1 => ⟨dot :: slash :: (path.dotted n).bytes⟩

section Dotted

variable (path : Path) (n : Nat)

theorem length_dotted : (path.dotted n).bytes.length = 2 * n + path.bytes.length := by
  induction n with
  | zero => simp [dotted]
  | succ n ih =>
      rw [dotted, List.length_cons, List.length_cons, ih]
      omega

theorem segments_dotted : (path.dotted n).segments = List.replicate n [dot] ++ path.segments := by
  induction n with
  | zero => rfl
  | succ n ih =>
      have first : (path.dotted (n + 1)).bytes = [dot] ++ slash :: (path.dotted n).bytes := rfl
      have apart : slash ∉ [dot] := by decide
      have rest : (path.dotted n).bytes.splitOn slash = _ := ih
      rw [segments, first, List.splitOn_append_cons_self, rest, List.splitOn_eq_singleton apart]
      rfl

theorem isAbsolute_dotted (relative : path.isAbsolute = false) :
    (path.dotted n).isAbsolute = false := by
  cases n with
  | zero => exact relative
  | succ n => rfl

theorem steps_dotted (relative : path.isAbsolute = false) :
    (path.dotted n).steps = List.replicate n .here ++ path.steps := by
  have here : stepOf [dot] = .here := rfl
  simp [steps, isAbsolute_dotted, relative, segments_dotted, here]

theorem dotted_ne_empty (nonempty : path.bytes ≠ []) : (path.dotted n).bytes ≠ [] := by
  cases n with
  | zero => exact nonempty
  | succ n => exact List.cons_ne_nil _ _

theorem join_dotted {next : Path} (nonempty : path.bytes ≠ [])
    (relative : next.isAbsolute = false) :
    (path.dotted n).join next = (path.join next).dotted n := by
  induction n with
  | zero => rfl
  | succ n ih =>
      have filled := path.dotted_ne_empty n nonempty
      have last : (dot :: slash :: (path.dotted n).bytes).getLast? =
          (path.dotted n).bytes.getLast? := by
        rcases List.exists_cons_of_ne_nil filled with ⟨byte, rest, cut⟩
        rw [cut, List.getLast?_cons_cons, List.getLast?_cons_cons]
      rw [dotted, dotted, ← ih]
      by_cases ended : (path.dotted n).bytes.getLast? = some slash
      · simp [join, relative, last, filled, ended]
      · simp [join, relative, last, filled, ended]

end Dotted

end Path

namespace FileTree

theorem advance_here {root : Node} {place : Location} (directory : root.isDirectoryAt place = true)
    (n : Nat) (steps : List Component) :
    advance root place (List.replicate n .here ++ steps) = advance root place steps := by
  induction n with
  | zero => rfl
  | succ n ih =>
      rw [List.replicate_succ, List.cons_append, advance, if_pos directory]
      exact ih

theorem place?_dotted {tree : FileTree} {path : Path}
    (directory : tree.root.isDirectoryAt tree.current = true) (relative : path.isAbsolute = false)
    (n : Nat) : tree.place? (path.dotted n) = tree.place? path := by
  rw [place?, place?, path.steps_dotted n relative, resolveWithin, advance_here directory]
  rw [resolveWithin]

end FileTree

end QuoteLint
