import QuoteLint.Pattern

/-! How much room a pattern takes as a machine that reads bytes, which limits how large a pattern
may be. The machine has states of equal size; a state with several ways out takes some more room for
each of them. -/

namespace QuoteLint

open Text (CharSet)

namespace Text.CharSet

def digitRuns : Nat → Nat → Nat → List (List (Nat × Nat))
  | 0, first, last => [[(first, last)]]
  | digits + 1, first, last =>
    let unit := 64 ^ (digits + 1)
    let high := first / unit
    let low := last / unit
    if high = low then
      (digitRuns digits (first % unit) (last % unit)).map ((high, high) :: ·)
    else
      let startsWhole := first % unit == 0
      let endsWhole := last % unit == unit - 1
      let head := if startsWhole then []
        else (digitRuns digits (first % unit) (unit - 1)).map ((high, high) :: ·)
      let tail := if endsWhole then [] else (digitRuns digits 0 (last % unit)).map ((low, low) :: ·)
      let start := if startsWhole then high else high + 1
      let stop := if endsWhole then low else low - 1
      let middle := if start ≤ stop then
          [(start, stop) :: List.replicate (digits + 1) (0, 63)]
        else []
      head ++ middle ++ tail

def spellings : List (Nat × Nat × Nat) :=
  [(0, 0, 0x7F), (1, 0x80, 0x7FF), (2, 0x800, 0xD7FF), (2, 0xE000, 0xFFFF), (3, 0x10000, maxCode)]

def byteRuns (set : CharSet) : List (List (Nat × Nat)) :=
  spellings.flatMap fun (digits, first, last) =>
    set.ranges.flatMap fun range =>
      let start := max first range.1
      let stop := min last range.2
      if start ≤ stop then digitRuns digits start stop else []

def sharedStart (a b : List (Nat × Nat)) : Nat :=
  if a.length = b.length then ((a.zip b).takeWhile fun (x, y) => x == y).length else 0

/-- The number of states for runs of bytes, where runs that start alike share states. -/
def runStates (before : List (Nat × Nat)) : List (List (Nat × Nat)) → Nat
  | [] => 0
  | run :: rest => run.length - sharedStart before run + runStates run rest

end Text.CharSet

namespace Pattern

def stateBulk : Nat := 32

def choiceBulk (ways : Nat) : Nat := stateBulk + 4 * ways

def charsBulk (chars : CharSet) : Nat :=
  match chars.ranges with
  | [] => stateBulk
  | [(first, last)] =>
    if first = last then stateBulk * (String.singleton (Char.ofNat first)).utf8ByteSize
    else rangesBulk chars
  | _ => rangesBulk chars
where
  rangesBulk (chars : CharSet) : Nat :=
    if chars.isBelow 0x80 then 2 * stateBulk + 8 * chars.ranges.length
    else
      let runs := chars.byteRuns
      stateBulk * (2 + CharSet.runStates [] runs) + 4 * runs.length

def isZeroWidth : Pattern → Bool
  | .empty => true
  | .one _ => false
  | .edge _ => true
  | .seq first second => first.isZeroWidth && second.isZeroWidth
  | .alt first second => first.isZeroWidth && second.isZeroWidth
  | .times body _ most => body.isZeroWidth || most == some 0
  | .group body => body.isZeroWidth

/-- The room for a pattern. Without width, more than one round is no use. Groups take room of their
own, but not in a machine that reads backwards. -/
def bulk (withGroups : Bool) : Pattern → Nat
  | .empty => stateBulk
  | .one chars => charsBulk chars
  | .edge _ => stateBulk
  | .seq first second => first.bulk withGroups + second.bulk withGroups
  | .alt first second =>
    let choice := match second with
      | .alt .. => choiceBulk 1 - stateBulk
      | _ => choiceBulk 2 + stateBulk
    choice + first.bulk withGroups + second.bulk withGroups
  | .times body least most =>
    let least := if body.isZeroWidth then min least 1 else least
    let most := if body.isZeroWidth then some (min (most.getD 1) 1) else most
    let round := body.bulk withGroups
    match most with
    | none => max least 1 * round + choiceBulk 2
    | some most =>
      if most = least then least * round
      else least * round + stateBulk + (most - least) * (choiceBulk 2 + round)
  | .group body => (if withGroups then 2 * stateBulk else 0) + body.bulk withGroups

def frameBulk : Nat := 144

def maxBulk : Nat := 10 * 0x100000

def isTooLarge (pattern : Pattern) : Bool :=
  maxBulk < frameBulk + pattern.bulk false || maxBulk <
    frameBulk + 2 * stateBulk + pattern.bulk true

end Pattern

end QuoteLint
