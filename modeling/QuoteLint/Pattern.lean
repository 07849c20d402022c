import QuoteLint.Text.CharSet

/-! Patterns of text, and whether one occurs in a text. -/

namespace QuoteLint

open Text (CharSet)

inductive WordEdge where
  | boundary
  | noBoundary
  | start
  | stop
  | startHalf
  | stopHalf
  deriving DecidableEq, Repr

/-- A condition on the place between two characters. Lines end before a newline; `withReturns`, also
before a carriage return, and not between the two. -/
inductive Edge where
  | textStart
  | textEnd
  | lineStart (withReturns : Bool)
  | lineEnd (withReturns : Bool)
  | word (kind : WordEdge) (chars : CharSet)
  deriving DecidableEq, Repr

def WordEdge.holds (before after : Bool) : WordEdge → Bool
  | .boundary => before != after
  | .noBoundary => before == after
  | .start => !before && after
  | .stop => before && !after
  | .startHalf => !before
  | .stopHalf => !after

def Edge.holds (before after : Option Char) : Edge → Bool
  | .textStart => before.isNone
  | .textEnd => after.isNone
  | .lineStart withReturns =>
    before.all (· == '\n') || (withReturns && before == some '\r' && after != some '\n')
  | .lineEnd withReturns =>
    if withReturns then
      after.all (· == '\r') || (after == some '\n' && before != some '\r')
    else after.all (· == '\n')
  | .word kind chars =>
    kind.holds (before.any fun c => chars.holds c.toNat) (after.any fun c => chars.holds c.toNat)

inductive Pattern where
  | empty
  | one (chars : CharSet)
  | edge (edge : Edge)
  | seq (first second : Pattern)
  | alt (first second : Pattern)
  | times (body : Pattern) (least : Nat) (most : Option Nat)
  /-- A part that is remembered by its number or name. -/
  | group (body : Pattern)
  deriving DecidableEq, Repr

/-! ## Places in a text

The places between the characters of a text are counted from zero, and a set of them is a number
whose bits tell which of them it holds. -/

def placesBefore (chars : CharSet) : List Char → Nat
  | [] => 0
  | c :: rest => 2 * placesBefore chars rest + if chars.holds c.toNat then 1 else 0

def placesAt (edge : Edge) (before : Option Char) : List Char → Nat
  | [] => if edge.holds before none then 1 else 0
  | c :: rest => 2 * placesAt edge (some c) rest + if edge.holds before (some c) then 1 else 0

def everyPlace (text : List Char) : Nat := Nat.pow 2 (text.length + 1) - 1

inductive Course where
  | stay
  | step (places : Nat)
  | test (places : Nat)
  | seq (first second : Course)
  | alt (first second : Course)
  | times (body : Course) (least : Nat) (more : Nat)

namespace Course

/-- Does the same over and over. Once it changes nothing, it never will. -/
def iterate (advance : Nat → Nat) : Nat → Nat → Nat
  | 0, places => places
  | count + 1, places =>
    let next := advance places
    if next = places then places else iterate advance count next

def collect (advance : Nat → Nat) (rounds places : Nat) : Nat :=
  iterate (fun places => places ||| advance places) rounds places

def reach : Course → Nat → Nat
  | .stay, places => places
  | .step allowed, places => 2 * (places &&& allowed)
  | .test allowed, places => places &&& allowed
  | .seq first second, places => second.reach (first.reach places)
  | .alt first second, places => first.reach places ||| second.reach places
  | .times body least more, places => collect body.reach more (iterate body.reach least places)

end Course

namespace Pattern

/-- Lays a pattern over a text. More rounds than the text has places reach nothing new. -/
def courseOn (text : List Char) : Pattern → Course
  | .empty => .stay
  | .one chars => .step (placesBefore chars text)
  | .edge condition => .test (placesAt condition none text)
  | .seq first second => .seq (courseOn text first) (courseOn text second)
  | .alt first second => .alt (courseOn text first) (courseOn text second)
  | .times body least most =>
    let rounds := text.length + 1
    .times (courseOn text body) (min least rounds) (min (most.elim rounds (· - least)) rounds)
  | .group body => courseOn text body

def occursIn (pattern : Pattern) (text : List Char) : Bool :=
  (courseOn text pattern).reach (everyPlace text) != 0

end Pattern

end QuoteLint
