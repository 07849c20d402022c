import QuoteLint.Text.Hex

/-! Quoted texts of a settings file, in the four forms that the format has. Each reader starts after
the opening quotes and gives the text and what follows the closing quotes. -/

namespace QuoteLint.Toml

def isBlank (c : Char) : Bool := c == ' ' || c == '\t'

def isPlain (c : Char) : Bool := c == '\t' || (0x20 ≤ c.toNat && c.toNat != 0x7F)

def scalar? (digits : List Char) : Option Char := do
  let n ← Text.hexNumber? digits
  if n < 0xD800 ∨ (0xDFFF < n ∧ n < 0x110000) then some (Char.ofNat n) else none

def shortEscape? (c : Char) : Option Char :=
  match c with
  | 'b' => some '\x08'
  | 't' => some '\t'
  | 'n' => some '\n'
  | 'f' => some '\x0c'
  | 'r' => some '\r'
  | 'e' => some '\x1b'
  | '"' => some '"'
  | '\\' => some '\\'
  | _ => none

def escape? : List Char → Option (Char × List Char)
  | 'x' :: a :: b :: rest => (scalar? [a, b]).map (·, rest)
  | 'u' :: a :: b :: c :: d :: rest => (scalar? [a, b, c, d]).map (·, rest)
  | 'U' :: a :: b :: c :: d :: e :: f :: g :: h :: rest =>
    (scalar? [a, b, c, d, e, f, g, h]).map (·, rest)
  | c :: rest => (shortEscape? c).map (·, rest)
  | [] => none

theorem length_of_escape? {cs rest : List Char} {c : Char} (read : escape? cs = some (c, rest)) :
    rest.length < cs.length := by
  unfold escape? at read
  split at read
  all_goals simp_all only [Option.map_eq_some_iff, Prod.mk.injEq, reduceCtorEq]
  all_goals
    obtain ⟨_, _, _, rfl⟩ := read
    simp only [List.length_cons]
    omega

def withFirst (c : Char) (read : Option (List Char × List Char)) : Option (List Char × List Char) :=
  read.map fun (text, rest) => (c :: text, rest)

def literal? : List Char → Option (List Char × List Char)
  | [] => none
  | c :: rest =>
    if c = '\'' then some ([], rest)
    else if isPlain c then withFirst c (literal? rest)
    else none

def basic? (cs : List Char) : Option (List Char × List Char) :=
  match cs with
  | [] => none
  | '"' :: rest => some ([], rest)
  | '\\' :: rest =>
    match _read : escape? rest with
    | some (c, after) => withFirst c (basic? after)
    | none => none
  | c :: rest => if isPlain c then withFirst c (basic? rest) else none
termination_by cs.length
decreasing_by
  · have shorter := length_of_escape? _read
    simp only [List.length_cons]
    omega
  · simp

/-- Between three single quotes, over several lines. Up to two quotes may stand before the closing
ones. -/
def longLiteral? : List Char → Option (List Char × List Char)
  | '\'' :: '\'' :: '\'' :: '\'' :: '\'' :: rest => some (['\'', '\''], rest)
  | '\'' :: '\'' :: '\'' :: '\'' :: rest => some (['\''], rest)
  | '\'' :: '\'' :: '\'' :: rest => some ([], rest)
  | '\r' :: '\n' :: rest => withFirst '\r' (withFirst '\n' (longLiteral? rest))
  | '\n' :: rest => withFirst '\n' (longLiteral? rest)
  | c :: rest => if isPlain c then withFirst c (longLiteral? rest) else none
  | [] => none

def dropFolded : List Char → List Char
  | '\r' :: '\n' :: rest => dropFolded rest
  | c :: rest => if isBlank c || c == '\n' then dropFolded rest else c :: rest
  | [] => []

theorem length_dropFolded_le (cs : List Char) : (dropFolded cs).length ≤ cs.length := by
  fun_induction dropFolded cs <;> simp_all <;> omega

/-- What follows a backslash at the end of a line. The blanks and line ends after it are dropped. -/
def fold? (cs : List Char) : Option (List Char) :=
  match cs.dropWhile isBlank with
  | '\n' :: rest => some (dropFolded rest)
  | '\r' :: '\n' :: rest => some (dropFolded rest)
  | _ => none

theorem length_of_fold? {cs rest : List Char} (read : fold? cs = some rest) :
    rest.length < cs.length := by
  have shorter : (cs.dropWhile isBlank).length ≤ cs.length :=
    (List.dropWhile_suffix isBlank).length_le
  unfold fold? at read
  split at read
  · rename_i tail same
    have folded := length_dropFolded_le tail
    simp only [Option.some.injEq] at read
    simp only [same, List.length_cons] at shorter
    subst read
    omega
  · rename_i tail same
    have folded := length_dropFolded_le tail
    simp only [Option.some.injEq] at read
    simp only [same, List.length_cons] at shorter
    subst read
    omega
  · contradiction

def longBasic? (cs : List Char) : Option (List Char × List Char) :=
  match cs with
  | '"' :: '"' :: '"' :: '"' :: '"' :: rest => some (['"', '"'], rest)
  | '"' :: '"' :: '"' :: '"' :: rest => some (['"'], rest)
  | '"' :: '"' :: '"' :: rest => some ([], rest)
  | '\\' :: rest =>
    match _folded : fold? rest with
    | some after => longBasic? after
    | none =>
      match _read : escape? rest with
      | some (c, after) => withFirst c (longBasic? after)
      | none => none
  | '\r' :: '\n' :: rest => withFirst '\r' (withFirst '\n' (longBasic? rest))
  | '\n' :: rest => withFirst '\n' (longBasic? rest)
  | c :: rest => if isPlain c then withFirst c (longBasic? rest) else none
  | [] => none
termination_by cs.length
decreasing_by
  · have shorter := length_of_fold? _folded
    simp only [List.length_cons]
    omega
  · have shorter := length_of_escape? _read
    simp only [List.length_cons]
    omega
  · simp only [List.length_cons]
    omega
  · simp
  · simp

def dropFirstLineEnd : List Char → List Char
  | '\n' :: rest => rest
  | '\r' :: '\n' :: rest => rest
  | cs => cs

def text? : List Char → Option (List Char × List Char)
  | '"' :: '"' :: '"' :: rest => longBasic? (dropFirstLineEnd rest)
  | '\'' :: '\'' :: '\'' :: rest => longLiteral? (dropFirstLineEnd rest)
  | '"' :: rest => basic? rest
  | '\'' :: rest => literal? rest
  | _ => none

end QuoteLint.Toml
