import QuoteLint.Config
import QuoteLint.Proofs.Files.Paths

/-! Extensions as users write them, and the files that carry them. A configured extension is put
into small letters of all scripts, while a file's own extension is compared but for the case of
ASCII letters. The two meet unless the extension has a capital letter beyond ASCII, and then not
even a file with that very extension is found. -/

namespace QuoteLint

namespace Text

theorem toLower_of_beyond {c : Char} (beyond : 128 ≤ c.toNat) : c.toLower = c := by
  apply dif_neg
  intro capital
  have bound : c.toNat ≤ 'Z'.toNat := UInt32.le_iff_toNat_le.mp capital.2
  have last : 'Z'.toNat = 90 := rfl
  omega

theorem toLower_of_ascii {c : Char} (ascii : c.toNat < 128) :
    c.toLower.toLower = c.toLower ∧ c.toLower.toNat < 128 := by
  have all : ∀ code < 128, (Char.ofNat code).toLower.toLower = (Char.ofNat code).toLower ∧
      (Char.ofNat code).toLower.toNat < 128 := by
    decide
  have here := all c.toNat ascii
  rw [Char.ofNat_toNat] at here
  exact here

theorem lowerOf_capital {c : Char} (capital : 'A'.toNat ≤ c.toNat ∧ c.toNat ≤ 'Z'.toNat) :
    lowerOf c = [c.toLower] := by
  have all : ∀ step < 26, lowerOf (Char.ofNat ('A'.toNat + step)) =
      [(Char.ofNat ('A'.toNat + step)).toLower] := by
    decide +kernel
  have first : 'A'.toNat = 65 := rfl
  have last : 'Z'.toNat = 90 := rfl
  have here := all (c.toNat - 'A'.toNat) (by omega)
  rw [Nat.add_sub_cancel' capital.1, Char.ofNat_toNat] at here
  exact here

theorem lowerOf_of_not_capital {c : Char} (ascii : c.toNat < 128)
    (other : ¬ ('A'.toNat ≤ c.toNat ∧ c.toNat ≤ 'Z'.toNat)) : lowerOf c = [c] := by
  have runs : ∀ run ∈ caseRuns.toList, run.first = 'A'.toNat ∧ run.last = 'Z'.toNat ∨
      128 ≤ run.first := by
    decide +kernel
  have outside : caseRuns.find? (·.holds c.toNat) = none := by
    rw [← Array.find?_toList, List.find?_eq_none]
    intro run member held
    simp only [CaseRun.holds, Bool.and_eq_true, decide_eq_true_eq] at held
    rcases runs run member with ⟨first, last⟩ | beyond
    · omega
    · omega
  have undotted : c.toNat ≠ 0x130 := by omega
  rw [lowerOf, if_neg undotted, outside]

theorem toLower_lowerOf_ascii {c : Char} (ascii : c.toNat < 128) :
    (lowerOf c).map Char.toLower = [c.toLower] := by
  by_cases capital : 'A'.toNat ≤ c.toNat ∧ c.toNat ≤ 'Z'.toNat
  · rw [lowerOf_capital capital, List.map_singleton, (toLower_of_ascii ascii).1]
  · rw [lowerOf_of_not_capital ascii capital, List.map_singleton]

/-- The character is in ASCII, or it is no capital letter. -/
def KeepsCase (c : Char) : Prop := c.toNat < 128 ∨ lowerOf c = [c]

instance (c : Char) : Decidable (KeepsCase c) := inferInstanceAs (Decidable (_ ∨ _))

theorem lowerOf_ne_nil (c : Char) : lowerOf c ≠ [] := by
  unfold lowerOf
  split
  · exact List.cons_ne_nil _ _
  · split <;> exact List.cons_ne_nil _ _

theorem toLower_lowerOf_iff (c : Char) :
    (lowerOf c).map Char.toLower = [c.toLower] ↔ KeepsCase c := by
  by_cases ascii : c.toNat < 128
  · exact iff_of_true (toLower_lowerOf_ascii ascii) (.inl ascii)
  · have own : c.toLower = c := toLower_of_beyond (by omega)
    constructor
    · intro same
      apply Or.inr
      rcases List.map_eq_singleton_iff.mp same with ⟨small, single, lowered⟩
      rw [own] at lowered
      -- a small letter in ASCII would stay there
      have beyond : ¬ small.toNat < 128 := by
        intro inside
        apply ascii
        rw [← lowered]
        exact (toLower_of_ascii inside).2
      rw [single, ← lowered, toLower_of_beyond (by omega)]
    · intro kept
      rcases kept with inside | alone
      · exact absurd inside ascii
      · rw [alone]
        rfl

def smallWithin (before : List Char) (c : Char) (rest : List Char) : List Char :=
  if c = 'Σ' then if meetsCased before && !meetsCased rest then ['ς'] else ['σ'] else lowerOf c

theorem lowercaseFrom_cons (before : List Char) (c : Char) (rest : List Char) :
    lowercaseFrom before (c :: rest) =
      smallWithin before c rest ++ lowercaseFrom (c :: before) rest := rfl

theorem smallWithin_ne_nil (before : List Char) (c : Char) (rest : List Char) :
    smallWithin before c rest ≠ [] := by
  unfold smallWithin
  split
  · split <;> exact List.cons_ne_nil _ _
  · exact lowerOf_ne_nil c

theorem toLower_smallWithin_iff (before : List Char) (c : Char) (rest : List Char) :
    (smallWithin before c rest).map Char.toLower = [c.toLower] ↔ KeepsCase c := by
  by_cases sigma : c = 'Σ'
  · subst sigma
    have capital : ¬ KeepsCase 'Σ' := by decide +kernel
    have apart : (smallWithin before 'Σ' rest).map Char.toLower ≠ ['Σ'.toLower] := by
      rw [smallWithin, if_pos rfl]
      split <;> decide
    exact iff_of_false apart capital
  · rw [smallWithin, if_neg sigma]
    exact toLower_lowerOf_iff c

theorem length_le_lowercaseFrom (before cs : List Char) :
    cs.length ≤ (lowercaseFrom before cs).length := by
  induction cs generalizing before with
  | nil => exact Nat.zero_le _
  | cons c rest ih =>
      have tail := ih (c :: before)
      have head := List.length_pos_iff.mpr (smallWithin_ne_nil before c rest)
      rw [lowercaseFrom_cons, List.length_append, List.length_cons]
      omega

theorem toLower_lowercaseFrom_iff (before cs : List Char) :
    (lowercaseFrom before cs).map Char.toLower = cs.map Char.toLower ↔ ∀ c ∈ cs, KeepsCase c := by
  induction cs generalizing before with
  | nil => simp [lowercaseFrom]
  | cons c rest ih =>
      have head := toLower_smallWithin_iff before c rest
      have tail := ih (c :: before)
      rw [lowercaseFrom_cons, List.map_append, List.map_cons, List.forall_mem_cons, ← head, ← tail]
      constructor
      · intro same
        -- no character can make up for another one: each has at least one small letter
        have first := List.length_pos_iff.mpr (smallWithin_ne_nil before c rest)
        have later := length_le_lowercaseFrom (c :: before) rest
        have total := congrArg List.length same
        simp only [List.length_append, List.length_map, List.length_cons] at total
        apply List.append_inj same
        rw [List.length_map, List.length_singleton]
        omega
      · intro both
        rw [both.1, both.2]
        rfl

end Text

namespace Path

theorem extension?_of_name {path : Path} {stem : UInt8} {extension : List UInt8}
    (named : path.fileName? = some ⟨stem :: dot :: extension⟩) (undotted : dot ∉ extension) :
    path.extension? = some ⟨extension⟩ := by
  have plain : ∀ byte ∈ extension.reverse, (byte != dot) = true := by
    intro byte member
    apply bne_iff_ne.mpr
    intro same
    apply undotted
    rw [← same]
    exact List.mem_reverse.mp member
  have turned : (stem :: dot :: extension).reverse = extension.reverse ++ [dot, stem] := by simp
  have from_dot : (extension.reverse ++ [dot, stem]).dropWhile (· != dot) = [dot, stem] := by
    rw [List.dropWhile_append_of_pos plain]
    rfl
  have to_dot : (extension.reverse ++ [dot, stem]).takeWhile (· != dot) = extension.reverse := by
    rw [List.takeWhile_append_of_pos plain]
    simp
  simp [extension?, named, turned, from_dot, to_dot]

theorem utf8_after_dot (extension : String) :
    Text.utf8 ("a." ++ extension) = 0x61 :: dot :: Text.utf8 extension := by
  have front : Text.utf8 "a." = [0x61, dot] := by decide
  rw [Text.utf8_append, front]
  rfl

theorem fileName?_after_dot (extension : String) (unparted : '/' ∉ extension.toList) :
    (ofText ("a." ++ extension)).fileName? = some ⟨0x61 :: dot :: Text.utf8 extension⟩ := by
  have apart : slash ∉ Text.utf8 extension :=
    mt (Text.mem_utf8_iff (c := '/') (by decide) extension).mp unparted
  have cut : (ofText ("a." ++ extension)).segments =
      [] ++ [0x61 :: dot :: Text.utf8 extension] := by
    rw [segments, ofText, utf8_after_dot]
    apply List.splitOn_eq_singleton
    simp only [List.mem_cons, apart, or_false]
    decide
  apply fileName?_of_segments cut
  simp [IsName, dot]

end Path

namespace Config

theorem normalizeExtensions_single {extension : String} (filled : extension ≠ "")
    (undotted : '.' ∉ extension.toList) (tight : Text.trim extension.toList = extension.toList) :
    normalizeExtensions [extension] = [String.ofList (Text.lowercase extension.toList)] := by
  have kept : extension.toList.dropWhile (· == '.') = extension.toList := by
    cases text : extension.toList with
    | nil => rfl
    | cons c rest =>
        apply List.dropWhile_cons_of_neg
        intro dot
        apply undotted
        rw [text, ← eq_of_beq dot]
        exact List.mem_cons_self
  have whole := Text.length_le_lowercaseFrom [] extension.toList
  have some_left := List.length_pos_iff.mpr (mt String.toList_eq_nil_iff.mp filled)
  have lower : Text.lowercase extension.toList ≠ [] := by
    apply List.length_pos_iff.mp
    exact Nat.lt_of_lt_of_le some_left whole
  simp [normalizeExtensions, normalizeExtension, tight, kept, lower]

theorem hasExtension_normalizeExtensions_iff {path : Path} {extension : String}
    (carried : path.extension? = some (.ofText extension)) (filled : extension ≠ "")
    (undotted : '.' ∉ extension.toList) (tight : Text.trim extension.toList = extension.toList) :
    path.hasExtension (normalizeExtensions [extension]) = true ↔
      ∀ c ∈ extension.toList, Text.KeepsCase c := by
  rw [← Text.toLower_lowercaseFrom_iff [], normalizeExtensions_single filled undotted tight,
    Path.hasExtension, carried]
  simp [Path.sameLetters, Text.lowercase]

/-- A file `a.` with a configured extension is found exactly if no letter of the extension is a
capital letter beyond ASCII. -/
theorem configured_extension_matches_iff (extension : String) (filled : extension ≠ "")
    (undotted : '.' ∉ extension.toList) (unparted : '/' ∉ extension.toList)
    (tight : Text.trim extension.toList = extension.toList) :
    Path.hasExtension (.ofText ("a." ++ extension)) (normalizeExtensions [extension]) = true ↔
      ∀ c ∈ extension.toList, Text.KeepsCase c := by
  have named := Path.fileName?_after_dot extension unparted
  have plain : Path.dot ∉ Text.utf8 extension :=
    mt (Text.mem_utf8_iff (c := '.') (by decide) extension).mp undotted
  have carried := Path.extension?_of_name named plain
  exact hasExtension_normalizeExtensions_iff carried filled undotted tight

theorem configured_extension_matches_sharp_s :
    Path.hasExtension (.ofText ("a." ++ "TPLß")) (normalizeExtensions ["TPLß"]) = true := by
  have each : "TPLß".toList.all (fun c => decide (Text.KeepsCase c)) = true := by decide +kernel
  apply (configured_extension_matches_iff "TPLß" (by decide) (by decide) (by decide)
    (by decide +kernel)).mpr
  intro c member
  exact of_decide_eq_true (List.all_eq_true.mp each c member)

/-- The extension is put into the small letter, and the file keeps its capital one. -/
theorem accented_extension_unmatched :
    "É" ≠ "" ∧ '.' ∉ "É".toList ∧ '/' ∉ "É".toList ∧ Char.ofNat 0 ∉ "É".toList ∧
      Text.trim "É".toList = "É".toList ∧
        Path.extension? (.ofText ("a." ++ "É")) = some (.ofText "É") ∧
      normalizeExtensions ["É"] = ["é"] ∧
        Path.hasExtension (.ofText ("a." ++ "É")) (normalizeExtensions ["É"]) = false := by
  decide +kernel

end Config

end QuoteLint
