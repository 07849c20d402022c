import QuoteLint.Text.Hex

/-! Sets of characters, as ascending ranges of code points with gaps between them. -/

namespace QuoteLint.Text

structure CharSet where
  ranges : List (Nat × Nat)
  deriving DecidableEq, Repr

namespace CharSet

def maxCode : Nat := 0x10FFFF

def empty : CharSet := ⟨[]⟩

def all : CharSet := ⟨[(0, maxCode)]⟩

def span (first last : Nat) : CharSet := ⟨[(first, last)]⟩

def single (c : Char) : CharSet := span c.toNat c.toNat

def holds (set : CharSet) (code : Nat) : Bool :=
  set.ranges.any fun range => range.1 ≤ code && code ≤ range.2

def coalesce (first last : Nat) : List (Nat × Nat) → List (Nat × Nat)
  | [] => [(first, last)]
  | (next, stop) :: rest =>
    if next ≤ last + 1 then coalesce first (max last stop) rest
    else (first, last) :: coalesce next stop rest

def ofRanges (ranges : List (Nat × Nat)) : CharSet :=
  match ranges.mergeSort fun a b => a.1 ≤ b.1 with
  | [] => empty
  | (first, last) :: rest => ⟨coalesce first last rest⟩

def unionAll (sets : List CharSet) : CharSet := ofRanges (sets.flatMap ranges)

def union (a b : CharSet) : CharSet := unionAll [a, b]

def gaps (start : Nat) : List (Nat × Nat) → List (Nat × Nat)
  | [] => if start ≤ maxCode then [(start, maxCode)] else []
  | (first, last) :: rest =>
    if start < first then (start, first - 1) :: gaps (last + 1) rest else gaps (last + 1) rest

def complement (set : CharSet) : CharSet := ⟨gaps 0 set.ranges⟩

def inter (a b : CharSet) : CharSet := (union a.complement b.complement).complement

def diff (a b : CharSet) : CharSet := inter a b.complement

def symmDiff (a b : CharSet) : CharSet := union (diff a b) (diff b a)

def isBelow (limit : Nat) (set : CharSet) : Bool := set.ranges.all (·.2 < limit)

def code (digits : List Char) : Nat := (hexNumber? digits).getD 0

/-- One entry of a table: a code point, a range as in `41-5A`, or every other code point of a range
as in `100-12E/2`. -/
def readEntry (entry : List Char) : List (Nat × Nat) :=
  match (entry.splitOn '/').map (·.splitOn '-') with
  | [[single]] => [(code single, code single)]
  | [[first, last]] => [(code first, code last)]
  | [[first, last], _] =>
    (List.range ((code last - code first) / 2 + 1)).map fun step =>
      (code first + 2 * step, code first + 2 * step)
  | _ => []

def read (lines : List String) : CharSet :=
  ofRanges (lines.flatMap fun line => (line.toList.splitOn ' ').flatMap readEntry)

end CharSet

end QuoteLint.Text
