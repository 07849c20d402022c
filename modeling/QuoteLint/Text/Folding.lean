import QuoteLint.Text.CharSet
import QuoteLint.Text.Lowercase

/-! Which characters are the same letter but for case. -/

namespace QuoteLint.Text

/-- Characters that are the same letter as another one, though that is not their small letter. -/
def otherForms : List (Nat × Nat) := [
  (0xB5, 0x3BC), (0x17F, 0x73), (0x345, 0x3B9), (0x3C2, 0x3C3), (0x3D0, 0x3B2), (0x3D1, 0x3B8),
  (0x3D5, 0x3C6), (0x3D6, 0x3C0), (0x3F0, 0x3BA), (0x3F1, 0x3C1), (0x3F5, 0x3B5), (0x1C80, 0x432),
  (0x1C81, 0x434), (0x1C82, 0x43E), (0x1C83, 0x441), (0x1C84, 0x442), (0x1C85, 0x442),
  (0x1C86, 0x44A), (0x1C87, 0x463), (0x1C88, 0xA64B), (0x1E9B, 0x1E61), (0x1FBE, 0x3B9),
  (0x1FD3, 0x390), (0x1FE3, 0x3B0), (0xFB05, 0xFB06)]

def CaseRun.codes (run : CaseRun) : List Nat :=
  (List.range ((run.last - run.first) / run.stride + 1)).map fun step =>
    run.first + run.stride * step

def foldPairs : List (Nat × Nat) :=
  otherForms ++ caseRuns.toList.flatMap fun run =>
    run.codes.map fun (code : Nat) => (code, ((code : Int) + run.shift).toNat)

def CharSet.foldCase (set : CharSet) : CharSet :=
  let letters := unionAll [set, ofRanges ((foldPairs.filter fun (form, _) => set.holds form).map
    fun (_, letter) => (letter, letter))]
  unionAll [letters, ofRanges ((foldPairs.filter fun (_, letter) => letters.holds letter).map
    fun (form, _) => (form, form))]

def CharSet.foldAscii (set : CharSet) : CharSet :=
  unionAll [set,
    ofRanges (((List.range 26).filter fun step => set.holds (0x61 + step)).map
      fun step => (0x41 + step, 0x41 + step)),
    ofRanges (((List.range 26).filter fun step => set.holds (0x41 + step)).map
      fun step => (0x61 + step, 0x61 + step))]

end QuoteLint.Text
