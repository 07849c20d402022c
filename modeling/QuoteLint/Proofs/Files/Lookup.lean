import QuoteLint.FileTree
import QuoteLint.Proofs.Text.Utf8

/-! What a path leads to. A text is read where a file stands that can be read and whose bytes are
its UTF-8, if the path is short enough to be opened. -/

namespace QuoteLint

@[simp]
theorem Name.text?_ofText (text : String) : (Name.ofText text).text? = some text :=
  Text.decode?_utf8 text

namespace Path

@[simp]
theorem text?_ofText (text : String) : (ofText text).text? = some text := Text.decode?_utf8 text

@[simp]
theorem display_ofText (text : String) : (ofText text).display = text := Text.display_utf8 text

def IsText (path : Path) : Prop := ∃ text : String, path = ofText text

end Path

namespace FileTree

variable (tree : FileTree) (path : Path)

theorem readText?_eq_some_iff (text : String) :
    tree.readText? path = some text ↔ tree.find? path = some (.ofText text) := by
  unfold readText? readText Node.ofText
  split
  · next bytes found =>
      rw [found]
      cases decoded : String.fromUTF8? bytes with
      | none =>
          refine iff_of_false nofun ?_
          intro same
          have bytes : bytes = text.toUTF8 := by simpa using same
          rw [(Text.fromUTF8?_eq_some_iff _ text).mpr bytes] at decoded
          cases decoded
      | some own =>
          rw [Text.fromUTF8?_eq_some_iff] at decoded
          simp [Except.toOption, decoded, String.toByteArray_inj]
  · next fault found => exact iff_of_false nofun (by simp [found])
  · next other _ found =>
      refine iff_of_false nofun ?_
      intro same
      rw [found] at same
      exact other _ (Option.some.inj same)
  · next missing => exact iff_of_false nofun (by simp [missing])

theorem isFile_of_readText? {text : String} (read : tree.readText? path = some text) :
    tree.isFile path = true := by
  rw [readText?_eq_some_iff] at read
  rw [isFile, read]
  rfl

/-- The place that a path leads to, however long the path is. -/
def place? : Option Location := resolveWithin tree.root maxLinks tree.current path.steps

def reached? : Option Node := (tree.place? path).bind tree.root.at?

def holdsText : Bool :=
  match tree.reached? path with
  | some (.file (.ok bytes)) => bytes.validateUTF8
  | _ => false

/-- The path can be opened, and leads to a text. -/
def isReadable : Bool := !path.isTooLong && tree.holdsText path

theorem reached?_of_empty (empty : path.bytes = []) (contents : Except String ByteArray) :
    tree.reached? path ≠ some (.file contents) := by
  have steps : path.steps = [.here] := by
    rcases path with ⟨bytes⟩
    cases empty
    rfl
  intro reached
  rw [reached?, place?, steps] at reached
  cases standing : tree.root.at? tree.current with
  | none => simp [resolveWithin, advance, Node.isDirectoryAt, standing] at reached
  | some node =>
      by_cases directory : node.isDirectory = true
      · have file : node = .file contents := by
          simpa [resolveWithin, advance, Node.isDirectoryAt, standing, directory] using reached
        rw [file] at directory
        cases directory
      · simp [resolveWithin, advance, Node.isDirectoryAt, standing, directory] at reached

theorem find?_eq_reached? (nonempty : path.bytes ≠ []) (short : path.isTooLong = false) :
    tree.find? path = tree.reached? path := by
  simp [find?, resolve?, nonempty, short, reached?, place?]

theorem find?_eq_file_iff (contents : Except String ByteArray) :
    tree.find? path = some (.file contents) ↔
      path.isTooLong = false ∧ tree.reached? path = some (.file contents) := by
  by_cases empty : path.bytes = []
  · have nowhere := tree.reached?_of_empty path empty contents
    simp [find?, resolve?, empty, nowhere]
  · cases long : path.isTooLong with
    | true => simp [find?, resolve?, long]
    | false => simp [tree.find?_eq_reached? path empty long]

theorem reached?_of_readText? {text : String} (read : tree.readText? path = some text) :
    tree.reached? path = some (.ofText text) :=
  ((tree.find?_eq_file_iff path _).mp ((tree.readText?_eq_some_iff path text).mp read)).2

theorem readText?_isSome : (tree.readText? path).isSome = tree.isReadable path := by
  rw [Bool.eq_iff_iff, Option.isSome_iff_exists]
  simp only [readText?_eq_some_iff, Node.ofText, find?_eq_file_iff, isReadable, holdsText,
    Bool.and_eq_true, Bool.not_eq_true', exists_and_left]
  apply and_congr_right
  intro _
  split
  · next bytes reached =>
      rw [ByteArray.validateUTF8_eq_true_iff]
      constructor
      · intro read
        rcases read with ⟨text, same⟩
        have own : bytes = text.toUTF8 := by simpa [reached] using same
        rw [own]
        exact text.isValidUTF8
      · intro valid
        exact ⟨String.fromUTF8 bytes valid, reached⟩
  · next other =>
      refine iff_of_false ?_ nofun
      intro read
      rcases read with ⟨text, reached⟩
      exact other _ reached

end FileTree

end QuoteLint
