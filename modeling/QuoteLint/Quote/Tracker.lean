/-! Following template expressions through the lines of a document. The tracker counts the quotes
that it meets inside an expression; a line breaks the rule when an expression closes on it with a
count that is odd and was even at the start of the line. -/

namespace QuoteLint

class Tally (κ : Type) where
  zero : κ
  raise : κ → κ
  isOdd : κ → Bool

instance : Tally UInt64 where
  zero := 0
  raise count := count + 1
  isOdd count := count % 2 == 1

instance : Tally Nat where
  zero := 0
  raise count := count + 1
  isOdd count := count % 2 == 1

instance : Tally Bool where
  zero := false
  raise odd := !odd
  isOdd odd := odd

structure Tracker (κ : Type) where
  inside : Bool
  singles : κ
  doubles : κ
  deriving DecidableEq, Repr

namespace Tracker

variable {κ : Type} [Tally κ]

def fresh : Tracker κ := ⟨false, Tally.zero, Tally.zero⟩

def atLineStart (t : Tracker κ) : Tracker κ := if t.inside then t else fresh

def turnedOdd (start now : Tracker κ) : Bool :=
  (Tally.isOdd now.singles && !Tally.isOdd start.singles) ||
    (Tally.isOdd now.doubles && !Tally.isOdd start.doubles)

/-- Counts one character inside an expression. A single quote is text while `quoted` holds, that is,
after an odd number of double quotes counted on the line. -/
def count (t : Tracker κ) (quoted : Bool) (c : Char) : Tracker κ × Bool :=
  if c = '"' then ({ t with doubles := Tally.raise t.doubles }, !quoted)
  else if c = '\'' && !quoted then ({ t with singles := Tally.raise t.singles }, quoted)
  else (t, quoted)

/-- Reads the rest of a line that began in state `start`. The answer tells whether an expression
closed with a count turned odd; the reading ends there. Markers may overlap, so each step moves on
by one character. -/
def scanFrom (start : Tracker κ) : Tracker κ → Bool → List Char → Bool × Tracker κ
  | t, _, [] => (false, t)
  | t, quoted, c :: rest =>
    if c = '}' ∧ rest.head? = some '}' then
      let closed := { t with inside := false }
      if turnedOdd start closed then (true, closed) else scanFrom start closed quoted rest
    else
      let opened := if c = '{' ∧ rest.head? = some '{' then { t with inside := true } else t
      if opened.inside then
        let counted := count opened quoted c
        scanFrom start counted.1 counted.2 rest
      else scanFrom start opened quoted rest

def scan (t : Tracker κ) (text : List Char) : Bool × Tracker κ :=
  scanFrom t.atLineStart t.atLineStart false text

end Tracker

end QuoteLint
