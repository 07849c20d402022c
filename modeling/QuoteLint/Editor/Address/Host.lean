import QuoteLint.Text.Hex
import QuoteLint.Text.Lowercase

/-! Hosts of addresses: names, and numbers of four or of sixteen bytes. -/

namespace QuoteLint.Editor.Address

def isForbidden (c : Char) : Bool :=
  c.toNat == 0 || "\t\n\r #/:<>?@[\\]^|".toList.contains c

def isForbiddenInName (c : Char) : Bool :=
  isForbidden c || c.toNat < 0x20 || c.toNat == 0x7F || c == '%'

def decodeBytes : List Char → List UInt8
  | '%' :: high :: low :: rest =>
    match Text.hexNumber? [high, low] with
    | some value => value.toUInt8 :: decodeBytes rest
    | none => 0x25 :: decodeBytes (high :: low :: rest)
  | c :: rest => (String.singleton c).toUTF8.toList ++ decodeBytes rest
  | [] => []

def percentDecode? (text : List Char) : Option (List Char) :=
  (String.fromUTF8? ⟨(decodeBytes text).toArray⟩).map String.toList

def digits? (base : Nat) (text : List Char) : Option Nat :=
  text.foldlM (fun value c => do
    let digit ← Text.hexValue? c
    if digit < base then some (base * value + digit) else none) 0

def hostNumber? : List Char → Option Nat
  | [] => none
  | '0' :: 'x' :: digits => digits? 16 digits
  | '0' :: digit :: digits => digits? 8 (digit :: digits)
  | digits => digits? 10 digits

def dotted (name : List Char) : List (List Char) :=
  let parts := name.splitOn '.'
  if 1 < parts.length && parts.getLast? == some [] then parts.dropLast else parts

/-- A name whose last part is a number has to be a host of four bytes. -/
def endsInNumber (name : List Char) : Bool :=
  match (dotted name).getLast? with
  | some part => (!part.isEmpty && part.all Char.isDigit) || (hostNumber? part).isSome
  | none => false

/-- The value of a four-byte host. Each part but the last is one byte, and the last fills what is
left. -/
def fourBytes? (name : List Char) : Option Nat := do
  let numbers ← (dotted name).mapM hostNumber?
  let last ← numbers.getLast?
  let upper := numbers.dropLast
  if 3 < upper.length || upper.any (255 < ·) || Nat.pow 256 (4 - upper.length) ≤ last then none
  else
    some (upper.zipIdx.foldl (fun total (number, index) =>
      total + number * Nat.pow 256 (3 - index)) last)

def printFourBytes (value : Nat) : List Char :=
  (".".intercalate ([3, 2, 1, 0].map fun index =>
    toString (value / Nat.pow 256 index % 256))).toList

def byte? (digits : List Char) : Option Nat :=
  match digits with
  | '0' :: _ :: _ => none
  | [] => none
  | _ => do
    let value ← digits? 10 digits
    if value ≤ 255 then some value else none

def units? (mayEndInBytes : Bool) : List (List Char) → Option (List Nat)
  | [] => some []
  | [group] =>
    if mayEndInBytes && group.contains '.' then
      match (group.splitOn '.').mapM byte? with
      | some [a, b, c, d] => some [256 * a + b, 256 * c + d]
      | _ => none
    else if group.isEmpty || 4 < group.length then none
    else (Text.hexNumber? group).map ([·])
  | group :: rest =>
    if group.isEmpty || 4 < group.length then none
    else do
      let unit ← Text.hexNumber? group
      let more ← units? mayEndInBytes rest
      return unit :: more

def groups (text : List Char) : List (List Char) := if text.isEmpty then [] else text.splitOn ':'

def cutAtGap? : List Char → Option (List Char × List Char)
  | ':' :: ':' :: rest => some ([], rest)
  | c :: rest => (cutAtGap? rest).map fun (before, after) => (c :: before, after)
  | [] => none

/-- The eight units of a sixteen-byte host. A double colon stands for at least one zero. -/
def eightUnits? (text : List Char) : Option (List Nat) :=
  match cutAtGap? text with
  | none => do
    let units ← units? true (groups text)
    if units.length == 8 then some units else none
  | some (before, after) => do
    let first ← units? false (groups before)
    let last ← units? true (groups after)
    if first.length + last.length < 8 then
      some (first ++ List.replicate (8 - first.length - last.length) 0 ++ last)
    else none

def longestZeros (units : List Nat) : Nat × Nat :=
  let runs := (List.range units.length).map fun start =>
    (start, ((units.drop start).takeWhile (· == 0)).length)
  runs.foldl (fun best run => if best.2 < run.2 then run else best) (0, 0)

def printUnits (units : List Nat) : List Char :=
  (":".intercalate (units.map fun unit => String.ofList (Nat.toDigits 16 unit))).toList

def printEightUnits (units : List Nat) : List Char :=
  let (start, length) := longestZeros units
  if length < 2 then printUnits units
  else printUnits (units.take start) ++ [':', ':'] ++ printUnits (units.drop (start + length))

def bracketed? : List Char → Option (List Char)
  | '[' :: rest =>
    if rest.getLast? == some ']' then
      (eightUnits? rest.dropLast).map fun units => '[' :: printEightUnits units ++ [']']
    else none
  | _ => none

def namedHost? (text : List Char) : Option (List Char) :=
  if text.head? == some '[' then bracketed? text
  else do
    let name := Text.lowercase (← percentDecode? text)
    if name.isEmpty || name.any isForbiddenInName then none
    else if endsInNumber name then (fourBytes? name).map printFourBytes
    else some name

end QuoteLint.Editor.Address
