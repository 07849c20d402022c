import QuoteLint.Text.Blank
import QuoteLint.Text.Utf8

/-! Texts and their bytes. A text is told from its bytes, a character of ASCII is one byte that
occurs in no other character, and the blanks before a line are cut off between two characters. -/

namespace QuoteLint.Text

theorem fromUTF8?_eq_some_iff (bytes : ByteArray) (text : String) :
    String.fromUTF8? bytes = some text ↔ bytes = text.toUTF8 := by
  constructor
  · intro decoded
    unfold String.fromUTF8? at decoded
    split at decoded
    · cases decoded
      rfl
    · cases decoded
  · intro same
    have valid : text.toUTF8.IsValidUTF8 := text.isValidUTF8
    rw [same]
    unfold String.fromUTF8?
    rw [dif_pos valid]
    rfl

theorem utf8_inj {a b : String} (same : utf8 a = utf8 b) : a = b :=
  String.toByteArray_inj.mp (ByteArray.ext (Array.toList_inj.mp same))

theorem utf8_eq (text : String) : utf8 text = text.toList.flatMap String.utf8EncodeChar := by
  rw [utf8, String.toUTF8_eq_toByteArray, ← String.utf8Encode_toList, List.utf8Encode]
  exact List.toList_data_toByteArray

theorem utf8_append (front back : String) : utf8 (front ++ back) = utf8 front ++ utf8 back := by
  rw [utf8_eq, utf8_eq, utf8_eq, String.toList_append, List.flatMap_append]

theorem decode?_eq_some_iff (bytes : List UInt8) (text : String) :
    decode? bytes = some text ↔ bytes = utf8 text := by
  rw [decode?, fromUTF8?_eq_some_iff, utf8]
  constructor
  · intro same
    rw [← same]
  · intro same
    rw [same, Array.toArray_toList]

@[simp]
theorem decode?_utf8 (text : String) : decode? (utf8 text) = some text :=
  (decode?_eq_some_iff _ text).mpr rfl

@[simp]
theorem display_utf8 (text : String) : display (utf8 text) = text := by
  rw [display, decode?_utf8]
  rfl

/-! ## Bytes of ASCII -/

theorem high_of_mem_utf8EncodeChar {c : Char} (beyond : 0x80 ≤ c.toNat) {byte : UInt8}
    (member : byte ∈ String.utf8EncodeChar c) : 0x80 ≤ byte.toNat := by
  have code : c.val.toNat = c.toNat := rfl
  simp only [String.utf8EncodeChar, code] at member
  split at member
  · omega
  · split at member
    · simp only [List.mem_cons, List.not_mem_nil, or_false] at member
      rcases member with rfl | rfl <;> rw [UInt8.toNat_ofNat'] <;> omega
    · split at member
      · simp only [List.mem_cons, List.not_mem_nil, or_false] at member
        rcases member with rfl | rfl | rfl <;> rw [UInt8.toNat_ofNat'] <;> omega
      · simp only [List.mem_cons, List.not_mem_nil, or_false] at member
        rcases member with rfl | rfl | rfl | rfl <;> rw [UInt8.toNat_ofNat'] <;> omega

theorem utf8EncodeChar_of_ascii {c : Char} (ascii : c.toNat < 0x80) :
    String.utf8EncodeChar c = [UInt8.ofNat c.toNat] := by
  have code : c.val.toNat = c.toNat := rfl
  rw [String.utf8EncodeChar, if_pos (by omega), code]

theorem mem_utf8_iff {c : Char} (ascii : c.toNat < 0x80) (text : String) :
    UInt8.ofNat c.toNat ∈ utf8 text ↔ c ∈ text.toList := by
  rw [utf8_eq, List.mem_flatMap]
  constructor
  · intro found
    rcases found with ⟨other, member, byte⟩
    by_cases beyond : 0x80 ≤ other.toNat
    · have high := high_of_mem_utf8EncodeChar beyond byte
      rw [UInt8.toNat_ofNat'] at high
      omega
    · rw [utf8EncodeChar_of_ascii (by omega), List.mem_singleton] at byte
      have codes := congrArg UInt8.toNat byte
      rw [UInt8.toNat_ofNat', UInt8.toNat_ofNat'] at codes
      have same : c.toNat = other.toNat := by omega
      rw [← Char.ofNat_toNat c, same, Char.ofNat_toNat]
      exact member
  · intro member
    refine ⟨c, member, ?_⟩
    rw [utf8EncodeChar_of_ascii ascii]
    exact List.mem_singleton_self _

/-! ## Bytes that are no text -/

/-- However the character goes on, it lies beyond ASCII. -/
def Partial.isWide (held : Partial) : Bool :=
  0x80 ≤ held.low.toNat &&
    2 ≤ if held.more = 0 then held.value else held.value * 64 + (held.low.toNat - 0x80)

theorem showFirst_plain (byte : UInt8) :
    (showFirst byte).2.all Partial.isWide = true ∧ ('\n' ∈ (showFirst byte).1 → byte = 0x0a) := by
  have all : ∀ n < 256, (showFirst (UInt8.ofNat n)).2.all Partial.isWide = true ∧
      ('\n' ∈ (showFirst (UInt8.ofNat n)).1 → UInt8.ofNat n = 0x0a) := by
    decide +kernel
  have here := all byte.toNat byte.toNat_lt
  rw [UInt8.ofNat_toNat] at here
  exact here

theorem ofNat_ne_newline {code : Nat} (wide : 0x80 ≤ code) : Char.ofNat code ≠ '\n' := by
  intro same
  by_cases valid : code.isValidChar
  · have own : (Char.ofNat code).toNat = code := by
      rw [Char.ofNat, dif_pos valid]
      rfl
    have ten : '\n'.toNat = 10 := rfl
    rw [same] at own
    omega
  · have none : Char.ofNat code = Char.ofNat 0 := by
      rw [Char.ofNat, dif_neg valid]
      rfl
    rw [same] at none
    exact absurd none (by decide)

theorem showByte_plain (held : Option Partial) (byte : UInt8)
    (wide : held.all Partial.isWide = true) :
    (showByte held byte).2.all Partial.isWide = true ∧
      ('\n' ∈ (showByte held byte).1 → byte = 0x0a) := by
  have first := showFirst_plain byte
  cases held with
  | none => exact first
  | some begun =>
      rcases begun with ⟨value, low, high, more⟩
      simp only [Option.all_some, Partial.isWide, Bool.and_eq_true, decide_eq_true_eq] at wide
      by_cases within : low ≤ byte ∧ byte ≤ high
      · have above : low.toNat ≤ byte.toNat := UInt8.le_iff_toNat_le.mp within.1
        cases more with
        | zero =>
            have beyond : 0x80 ≤ value * 64 + (byte.toNat - 0x80) := by
              simp only [if_true] at wide
              omega
            have other := ofNat_ne_newline beyond
            simp [showByte, within, other.symm]
        | succ more =>
            simp only [Nat.add_one_ne_zero, if_false] at wide
            have next : Partial.isWide ⟨value * 64 + (byte.toNat - 0x80), 0x80, 0xbf, more⟩ =
                true := by
              simp only [Partial.isWide, Bool.and_eq_true, decide_eq_true_eq]
              refine ⟨by decide, ?_⟩
              split <;> omega
            simp [showByte, within, next]
      · have mark : '\n' ≠ replacement := by decide
        simpa [showByte, within, mark] using first

/-- Nothing but the byte of a newline shows as one. -/
theorem newline_of_mem_showFrom (held : Option Partial) (bytes : List UInt8)
    (wide : held.all Partial.isWide = true) (member : '\n' ∈ showFrom held bytes) :
    0x0a ∈ bytes := by
  induction bytes generalizing held with
  | nil =>
      rw [showFrom] at member
      split at member
      · exact absurd (List.mem_singleton.mp member) (by decide)
      · cases member
  | cons byte rest ih =>
      rcases showByte_plain held byte wide with ⟨next, plain⟩
      rcases List.mem_append.mp member with shown | later
      · rw [plain shown]
        exact List.mem_cons_self
      · exact List.mem_cons_of_mem byte (ih _ next later)

theorem newline_of_mem_display {bytes : List UInt8} (member : '\n' ∈ (display bytes).toList) :
    0x0a ∈ bytes := by
  rw [display] at member
  cases decoded : decode? bytes with
  | none =>
      rw [decoded, Option.getD_none, String.toList_ofList] at member
      exact newline_of_mem_showFrom none bytes rfl member
  | some text =>
      rw [decoded] at member
      rw [(decode?_eq_some_iff bytes text).mp decoded]
      exact (mem_utf8_iff (c := '\n') (by decide) text).mpr member

/-! ## The bytes before a line -/

theorem ofList_eq_indent_append (raw : List Char) :
    String.ofList raw = String.ofList (raw.takeWhile isBlank) ++ String.ofList (trimStart raw) := by
  rw [← String.ofList_append, trimStart, List.takeWhile_append_dropWhile]

theorem utf8ByteSize_indent (raw : List Char) :
    (String.ofList raw).utf8ByteSize =
      (String.ofList (raw.takeWhile isBlank)).utf8ByteSize +
        (String.ofList (trimStart raw)).utf8ByteSize := by
  rw [ofList_eq_indent_append, String.utf8ByteSize_append]

theorem indentBytes_eq (raw : List Char) :
    indentBytes raw = (String.ofList (raw.takeWhile isBlank)).utf8ByteSize := by
  have whole := utf8ByteSize_indent raw
  unfold indentBytes
  omega

theorem indentBytes_isValid (raw : List Char) :
    String.Pos.Raw.IsValid (String.ofList raw) ⟨indentBytes raw⟩ := by
  apply String.Pos.Raw.isValid_iff_exists_append.mpr
  refine ⟨_, _, ofList_eq_indent_append raw, ?_⟩
  rw [indentBytes_eq]
  rfl

theorem extract_indentBytes (raw : List Char) :
    (String.ofList raw).toUTF8.extract 0 (indentBytes raw) =
      (String.ofList (raw.takeWhile isBlank)).toUTF8 := by
  have bytes : (String.ofList raw).toUTF8 =
      (String.ofList (raw.takeWhile isBlank)).toUTF8 ++ (String.ofList (trimStart raw)).toUTF8 := by
    conv => lhs; rw [ofList_eq_indent_append]
    exact String.toByteArray_append
  rw [bytes]
  exact ByteArray.extract_append_eq_left (indentBytes_eq raw)

theorem takeBytes?_indentBytes (raw : List Char) :
    takeBytes? raw (indentBytes raw) = some (raw.takeWhile isBlank) := by
  rw [takeBytes?, extract_indentBytes, (fromUTF8?_eq_some_iff _ _).mpr rfl, Option.map_some,
    String.toList_ofList]

end QuoteLint.Text
