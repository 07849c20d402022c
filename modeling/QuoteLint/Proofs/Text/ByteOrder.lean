import Mathlib.Data.List.Lex
import Mathlib.Tactic.SplitIfs
import QuoteLint.NameMap
import QuoteLint.Proofs.Text.Utf8

/-! The order of texts by their UTF-8 bytes. It is the order by code point: each character is
spelled in base 64, a greater one with a greater leading byte or with as many digits after the same
mark. -/

namespace QuoteLint.Text

def leading : Nat → Nat → Nat
  | 0, value => value
  | count + 1, value => leading count (value / 64)

def spelled (mark : Nat) : Nat → Nat → List UInt8
  | 0, value => [UInt8.ofNat (value + mark)]
  | count + 1, value => spelled mark count (value / 64) ++ [UInt8.ofNat (value % 64 + 128)]

/-- The mark on the leading digit of a code point, and how many digits follow. -/
def form (value : Nat) : Nat × Nat :=
  if value ≤ 0x7f then (0, 0)
  else if value ≤ 0x7ff then (0xc0, 1)
  else if value ≤ 0xffff then (0xe0, 2)
  else (0xf0, 3)

theorem byte_lt {x y : Nat} (less : x < y) (fits : y < 256) : UInt8.ofNat x < UInt8.ofNat y :=
  (UInt8.ofNat_lt_iff_lt (less.trans fits) fits).mpr less

theorem spelled_eq_cons (mark count value : Nat) :
    ∃ digits, spelled mark count value = UInt8.ofNat (leading count value + mark) :: digits := by
  induction count generalizing value with
  | zero => exact ⟨[], rfl⟩
  | succ count ih =>
      obtain ⟨digits, front⟩ := ih (value / 64)
      refine ⟨digits ++ [UInt8.ofNat (value % 64 + 128)], ?_⟩
      rw [spelled, front, leading, List.cons_append]

theorem spelled_append_lt (mark count : Nat) {x y : Nat} (less : x < y)
    (fits : leading count y + mark < 256) (rest more : List UInt8) :
    spelled mark count x ++ rest < spelled mark count y ++ more := by
  induction count generalizing x y rest more with
  | zero => exact List.Lex.rel (byte_lt (by omega) fits)
  | succ count ih =>
      rw [spelled, spelled, List.append_assoc, List.append_assoc]
      obtain before | ⟨same, last⟩ : x / 64 < y / 64 ∨ x / 64 = y / 64 ∧ x % 64 < y % 64 := by omega
      · exact ih before fits _ _
      · rw [same]
        exact List.append_left_lt (List.Lex.rel (byte_lt (by omega) (by omega)))

theorem code_lt (c : Char) : c.val.toNat < 0x110000 := by
  rcases c.valid with below | ⟨-, below⟩
  · exact below.trans (by decide)
  · exact below

theorem utf8EncodeChar_eq_spelled (c : Char) :
    String.utf8EncodeChar c = spelled (form c.val.toNat).1 (form c.val.toNat).2 c.val.toNat := by
  have top := code_lt c
  simp only [String.utf8EncodeChar, form]
  generalize c.val.toNat = x at top
  split_ifs
  · rfl
  · have lead : x / 64 % 32 = x / 64 := by omega
    simp [spelled, lead]
  · have lead : x / 4096 % 16 = x / 64 / 64 := by omega
    simp [spelled, lead]
  · have lead : x / 262144 % 8 = x / 64 / 64 / 64 := by omega
    have second : x / 4096 = x / 64 / 64 := by omega
    simp [spelled, lead, second]

theorem form_cases {x y : Nat} (less : x < y) (top : y < 0x110000) :
    leading (form y).2 y + (form y).1 < 256 ∧
      (form x = form y ∨
        leading (form x).2 x + (form x).1 < leading (form y).2 y + (form y).1) := by
  unfold form
  split_ifs <;> simp only [leading, Prod.mk.injEq, true_or, and_true] <;> omega

theorem utf8EncodeChar_append_lt {c d : Char} (less : c < d) (rest more : List UInt8) :
    String.utf8EncodeChar c ++ rest < String.utf8EncodeChar d ++ more := by
  have order : c.val.toNat < d.val.toNat := less
  rw [utf8EncodeChar_eq_spelled, utf8EncodeChar_eq_spelled]
  obtain ⟨fits, same | below⟩ := form_cases order (code_lt d)
  · rw [same]
    exact spelled_append_lt _ _ order fits rest more
  · obtain ⟨front, first⟩ := spelled_eq_cons (form c.val.toNat).1 (form c.val.toNat).2 c.val.toNat
    obtain ⟨back, second⟩ := spelled_eq_cons (form d.val.toNat).1 (form d.val.toNat).2 d.val.toNat
    rw [first, second]
    exact List.Lex.rel (byte_lt below fits)

theorem flatMap_utf8EncodeChar_lt {a b : List Char} (less : a < b) :
    a.flatMap String.utf8EncodeChar < b.flatMap String.utf8EncodeChar := by
  induction less with
  | nil =>
      rename_i c rest
      obtain ⟨byte, more, encoded⟩ :=
        List.exists_cons_of_ne_nil (String.utf8EncodeChar_ne_nil (c := c))
      rw [List.flatMap_cons, encoded]
      exact List.Lex.nil
  | rel before => exact utf8EncodeChar_append_lt before _ _
  | cons _ ih => exact List.append_left_lt ih

/-- Comparing texts byte by byte is comparing them by code point. -/
theorem utf8_lt_iff (a b : String) : utf8 a < utf8 b ↔ a < b := by
  have mono : ∀ {a b : String}, a < b → utf8 a < utf8 b := by
    intro a b less
    rw [utf8_eq, utf8_eq]
    exact flatMap_utf8EncodeChar_lt less
  constructor
  · intro less
    apply Decidable.byContradiction
    intro notLess
    rcases Decidable.em (a = b) with rfl | differ
    · exact List.lt_irrefl _ less
    · exact List.lt_asymm less (mono (NameMap.lt_of_not_lt_of_ne notLess differ))
  · exact mono

end QuoteLint.Text
