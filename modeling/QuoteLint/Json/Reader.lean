import QuoteLint.Json

/-! Reading JSON by its grammar. -/

namespace QuoteLint.Json

def isSpace (c : Char) : Bool := c == ' ' || c == '\t' || c == '\n' || c == '\r'

def skipSpace (cs : List Char) : List Char := cs.dropWhile isSpace

inductive Piece where
  | plain (c : Char)
  | unit (n : Nat)
  deriving DecidableEq, Repr

def shortEscape? (c : Char) : Option Char :=
  match c with
  | '"' => some '"'
  | '\\' => some '\\'
  | '/' => some '/'
  | 'b' => some '\x08'
  | 'f' => some '\x0c'
  | 'n' => some '\n'
  | 'r' => some '\r'
  | 't' => some '\t'
  | _ => none

def pieces? : List Char → Option (List Piece × List Char)
  | [] => none
  | '"' :: rest => some ([], rest)
  | '\\' :: 'u' :: a :: b :: c :: d :: rest => do
    let n ← Text.hexNumber? [a, b, c, d]
    let (more, rest) ← pieces? rest
    return (.unit n :: more, rest)
  | '\\' :: c :: rest => do
    let plain ← shortEscape? c
    let (more, rest) ← pieces? rest
    return (.plain plain :: more, rest)
  | c :: rest =>
    if c.toNat < 0x20 ∨ c = '\\' then none
    else do
      let (more, rest) ← pieces? rest
      return (.plain c :: more, rest)

/-- A high unit joins the low unit after it; neither may stand alone. -/
def joinPieces? : List Piece → Option (List Char)
  | [] => some []
  | .plain c :: rest => (joinPieces? rest).map (c :: ·)
  | .unit n :: rest =>
    if n < 0xD800 ∨ 0xDFFF < n then (joinPieces? rest).map (Char.ofNat n :: ·)
    else match rest with
      | .unit low :: rest =>
        if n < 0xDC00 ∧ 0xDC00 ≤ low ∧ low ≤ 0xDFFF then
          (joinPieces? rest).map
            (Char.ofNat (0x10000 + (n - 0xD800) * 0x400 + (low - 0xDC00)) :: ·)
        else none
      | _ => none

def text? (cs : List Char) : Option (String × List Char) := do
  let (pieces, rest) ← pieces? cs
  let chars ← joinPieces? pieces
  return (String.ofList chars, rest)

def digitsValue (digits : List Char) : Nat :=
  digits.foldl (fun acc c => 10 * acc + (c.toNat - 48)) 0

def isWhole : List Char → Bool
  | [] => false
  | ['0'] => true
  | c :: _ => c != '0'

def splitDigits (cs : List Char) : List Char × List Char :=
  (cs.takeWhile Char.isDigit, cs.dropWhile Char.isDigit)

def fraction? (cs : List Char) : Option (List Char × List Char) :=
  match cs with
  | '.' :: rest =>
    let (digits, rest) := splitDigits rest
    if digits.isEmpty then none else some ('.' :: digits, rest)
  | _ => some ([], cs)

def exponent? (cs : List Char) : Option (List Char × List Char) :=
  match cs with
  | mark :: rest =>
    if mark = 'e' ∨ mark = 'E' then
      let sign := rest.takeWhile fun c => c == '+' || c == '-'
      let (digits, after) := splitDigits (rest.drop sign.length)
      if digits.isEmpty ∨ 1 < sign.length then none else some (mark :: sign ++ digits, after)
    else some ([], cs)
  | [] => some ([], [])

def number? (cs : List Char) : Option (Json × List Char) := do
  let sign := cs.take (if cs.head? = some '-' then 1 else 0)
  let (digits, rest) := splitDigits (cs.drop sign.length)
  if !isWhole digits then none else
  let (fraction, rest) ← fraction? rest
  let (exponent, rest) ← exponent? rest
  if fraction.isEmpty && exponent.isEmpty && !(digits == ['0'] && sign == ['-']) then
    let n : Int := digitsValue digits
    return (.int (if sign.isEmpty then n else -n), rest)
  else
    return (.real (String.ofList (sign ++ digits ++ fraction ++ exponent)), rest)

mutual

def value? : Nat → List Char → Option (Json × List Char)
  | 0, _ => none
  | fuel + 1, cs =>
    match skipSpace cs with
    | 'n' :: 'u' :: 'l' :: 'l' :: rest => some (.null, rest)
    | 't' :: 'r' :: 'u' :: 'e' :: rest => some (.bool true, rest)
    | 'f' :: 'a' :: 'l' :: 's' :: 'e' :: rest => some (.bool false, rest)
    | '"' :: rest => (text? rest).map fun (s, rest) => (.text s, rest)
    | '[' :: rest =>
      match skipSpace rest with
      | ']' :: rest => some (.list [], rest)
      | rest => (items? fuel rest).map fun (items, rest) => (.list items, rest)
    | '{' :: rest =>
      match skipSpace rest with
      | '}' :: rest => some (.object [], rest)
      | rest => (fields? fuel rest).map fun (fields, rest) => (.object fields, rest)
    | rest => number? rest

def items? : Nat → List Char → Option (List Json × List Char)
  | 0, _ => none
  | fuel + 1, cs => do
    let (item, rest) ← value? fuel cs
    match skipSpace rest with
    | ',' :: rest =>
      let (more, rest) ← items? fuel rest
      return (item :: more, rest)
    | ']' :: rest => return ([item], rest)
    | _ => none

def fields? : Nat → List Char → Option (List (String × Json) × List Char)
  | 0, _ => none
  | fuel + 1, cs =>
    match skipSpace cs with
    | '"' :: rest => do
      let (name, rest) ← text? rest
      match skipSpace rest with
      | ':' :: rest =>
        let (value, rest) ← value? fuel rest
        match skipSpace rest with
        | ',' :: rest =>
          let (more, rest) ← fields? fuel rest
          return ((name, value) :: more, rest)
        | '}' :: rest => return ([(name, value)], rest)
        | _ => none
      | _ => none
    | _ => none

end

/-- Reads a document that holds one value. Every step of the reading consumes a character, so the
bound is never reached. -/
def read? (cs : List Char) : Option Json := do
  let (value, rest) ← value? (2 * cs.length + 2) cs
  if (skipSpace rest).isEmpty then some value else none

end QuoteLint.Json
