import QuoteLint.Pattern.Bulk
import QuoteLint.Text.Blank
import QuoteLint.Text.Folding
import QuoteLint.Text.Property

/-! Reading patterns. Letters and digits stand for themselves; other signs have a meaning unless a
backslash takes it from them. -/

namespace QuoteLint.Pattern

open Text (CharSet)

/-- How signs are meant. Flags can be set within a pattern, up to the end of the group around
them. -/
structure Flags where
  /-- Letters stand for both cases. -/
  anyCase : Bool
  /-- The signs for the ends of the text stand for the ends of lines. -/
  manyLines : Bool
  /-- The dot stands for newlines too. -/
  dotAll : Bool
  /-- Lines end with carriage returns too. -/
  returns : Bool
  /-- Sets hold all characters that they name, not only those of ASCII. -/
  wide : Bool
  /-- Blanks and comments stand for nothing. -/
  spaced : Bool
  deriving DecidableEq, Repr

def Flags.start : Flags where
  anyCase := false
  manyLines := false
  dotAll := false
  returns := false
  wide := true
  spaced := false

/-- Sets one flag. Which of several ways to match is tried first makes no difference here. -/
def Flags.set? (flags : Flags) (value : Bool) : Char → Option Flags
  | 'i' => some { flags with anyCase := value }
  | 'm' => some { flags with manyLines := value }
  | 's' => some { flags with dotAll := value }
  | 'R' => some { flags with returns := value }
  | 'u' => some { flags with wide := value }
  | 'x' => some { flags with spaced := value }
  | 'U' => some flags
  | _ => none

def skipSpaced (inComment : Bool) : List Char → List Char
  | [] => []
  | c :: rest =>
    if inComment then skipSpaced (c != '\n') rest
    else if Text.isBlank c then skipSpaced false rest
    else if c == '#' then skipSpaced true rest
    else c :: rest

def Flags.skip (flags : Flags) (cs : List Char) : List Char :=
  if flags.spaced then skipSpaced false cs else cs

/-! ## Single signs -/

inductive Sign where
  | char (c : Char)
  | chars (set : CharSet)
  | edge (edge : Edge)

def asciiWord : CharSet := .ofRanges [(0x30, 0x39), (0x41, 0x5A), (0x5F, 0x5F), (0x61, 0x7A)]

def asciiSpace : CharSet := .ofRanges [(0x09, 0x0D), (0x20, 0x20)]

def Flags.word (flags : Flags) : CharSet := if flags.wide then Text.wordChars else asciiWord

def Flags.space (flags : Flags) : CharSet := if flags.wide then Text.whiteSpace else asciiSpace

def Flags.digit (flags : Flags) : CharSet :=
  if flags.wide then Text.decimalDigits else .span 0x30 0x39

def Flags.complement? (flags : Flags) (set : CharSet) : Option CharSet :=
  if flags.wide then some set.complement else none

def Flags.fold (flags : Flags) (set : CharSet) : CharSet :=
  if !flags.anyCase then set else if flags.wide then set.foldCase else set.foldAscii

def asciiKind? (name : List Char) : Option CharSet :=
  match String.ofList name with
  | "alnum" => some (.ofRanges [(0x30, 0x39), (0x41, 0x5A), (0x61, 0x7A)])
  | "alpha" => some (.ofRanges [(0x41, 0x5A), (0x61, 0x7A)])
  | "ascii" => some (.span 0x00 0x7F)
  | "blank" => some (.ofRanges [(0x09, 0x09), (0x20, 0x20)])
  | "cntrl" => some (.ofRanges [(0x00, 0x1F), (0x7F, 0x7F)])
  | "digit" => some (.span 0x30 0x39)
  | "graph" => some (.span 0x21 0x7E)
  | "lower" => some (.span 0x61 0x7A)
  | "print" => some (.span 0x20 0x7E)
  | "punct" => some (.ofRanges [(0x21, 0x2F), (0x3A, 0x40), (0x5B, 0x60), (0x7B, 0x7E)])
  | "space" => some asciiSpace
  | "upper" => some (.span 0x41 0x5A)
  | "word" => some asciiWord
  | "xdigit" => some (.ofRanges [(0x30, 0x39), (0x41, 0x46), (0x61, 0x66)])
  | _ => none

def hexDigits? (flags : Flags) : Nat → List Char → Option (List Char × List Char)
  | 0, cs => some ([], cs)
  | count + 1, c :: rest => do
    let _ ← Text.hexValue? c
    let (more, rest) ← hexDigits? flags count (flags.skip rest)
    return (c :: more, rest)
  | _, [] => none

def untilBrace? (spaced inComment : Bool) : List Char → Option (List Char × List Char)
  | [] => none
  | c :: rest =>
    if inComment then untilBrace? spaced (c != '\n') rest
    else if spaced && Text.isBlank c then untilBrace? spaced false rest
    else if spaced && c == '#' then untilBrace? spaced true rest
    else if c == '}' then some ([], rest)
    else (untilBrace? spaced false rest).map fun (held, rest) => (c :: held, rest)

def codeChar? (digits : List Char) : Option Char := do
  if digits.isEmpty then none else
  let code ← Text.hexNumber? digits
  if code ≤ CharSet.maxCode && !Text.surrogates.holds code then some (Char.ofNat code) else none

def numbered? (flags : Flags) (count : Nat) (cs : List Char) : Option (Sign × List Char) :=
  match flags.skip cs with
  | '{' :: rest => do
    let (digits, rest) ← untilBrace? flags.spaced false rest
    return (.char (← codeChar? digits), rest)
  | cs => do
    let (digits, rest) ← hexDigits? flags count cs
    let c ← codeChar? digits
    if count == 2 && !flags.wide && 0x7F < c.toNat then none else some (.char c, rest)

def cutAt? (part : List Char) : List Char → Option (List Char × List Char)
  | [] => none
  | c :: rest =>
    if part.isPrefixOf (c :: rest) then some ([], (c :: rest).drop part.length)
    else (cutAt? part rest).map fun (before, after) => (c :: before, after)

def braceSet? (name : List Char) : Option CharSet :=
  match cutAt? ['!', '='] name with
  | some (name, value) => (Text.setValued? name value).map CharSet.complement
  | none =>
    match (cutAt? [':'] name).or (cutAt? ['='] name) with
    | some (name, value) => Text.setValued? name value
    | none => Text.setNamed? name

def namedSet? (flags : Flags) (cs : List Char) : Option (CharSet × List Char) :=
  match flags.skip cs with
  | '{' :: rest => do
    let (name, rest) ← untilBrace? flags.spaced false rest
    return (← braceSet? name, rest)
  | '\\' :: _ => none
  | c :: rest => do return (← Text.setNamed? [c], rest)
  | [] => none

def named? (flags : Flags) (negated : Bool) (cs : List Char) : Option (Sign × List Char) := do
  if !flags.wide then none else
  let (set, rest) ← namedSet? flags cs
  let folded := flags.fold set
  return (.chars (if negated then folded.complement else folded), rest)

def wordEdge? (name : List Char) : Option WordEdge :=
  match String.ofList name with
  | "start" => some .start
  | "end" => some .stop
  | "start-half" => some .startHalf
  | "end-half" => some .stopHalf
  | _ => none

/-- A boundary of words. Braces after it can tell which kind of boundary, unless they hold a
number. -/
def boundary? (flags : Flags) (cs : List Char) : Option (Sign × List Char) :=
  let plain := Sign.edge (.word .boundary flags.word)
  match cs with
  | '{' :: rest =>
    match flags.skip rest with
    | [] => none
    | c :: _ =>
      if c.isAlpha || c == '-' then do
        let (name, rest) ← untilBrace? flags.spaced false rest
        return (.edge (.word (← wordEdge? name) flags.word), rest)
      else some (plain, cs)
  | _ => some (plain, cs)

def metaSigns : List Char := "\\.+*?()|[]\x7b\x7d^$#&-~".toList

def canEscape (c : Char) : Bool :=
  metaSigns.contains c || (c.toNat < 0x80 && !c.isAlphanum && c != '<' && c != '>')

def escape? (flags : Flags) : List Char → Option (Sign × List Char)
  | [] => none
  | c :: rest =>
    match c with
    | 'x' => numbered? flags 2 rest
    | 'u' => numbered? flags 4 rest
    | 'U' => numbered? flags 8 rest
    | 'p' => named? flags false rest
    | 'P' => named? flags true rest
    | 'd' => some (.chars flags.digit, rest)
    | 's' => some (.chars flags.space, rest)
    | 'w' => some (.chars flags.word, rest)
    | 'D' => do return (.chars (← flags.complement? flags.digit), rest)
    | 'S' => do return (.chars (← flags.complement? flags.space), rest)
    | 'W' => do return (.chars (← flags.complement? flags.word), rest)
    | 'a' => some (.char '\x07', rest)
    | 'f' => some (.char '\x0c', rest)
    | 't' => some (.char '\t', rest)
    | 'n' => some (.char '\n', rest)
    | 'r' => some (.char '\r', rest)
    | 'v' => some (.char '\x0b', rest)
    | 'A' => some (.edge .textStart, rest)
    | 'z' => some (.edge .textEnd, rest)
    | 'b' => boundary? flags rest
    | 'B' => some (.edge (.word .noBoundary flags.word), rest)
    | '<' => some (.edge (.word .start flags.word), rest)
    | '>' => some (.edge (.word .stop flags.word), rest)
    | _ => if canEscape c then some (.char c, rest) else none

/-! ## Sets in brackets -/

inductive SetOperator where
  | inter
  | diff
  | symmDiff

/-- A set in the making: what was read since the last operator, and what stands before that. The
depth tells how far brackets and operators are nested. -/
structure Draft where
  items : List CharSet
  depth : Nat
  before : Option (SetOperator × CharSet × Nat)

namespace Draft

def empty : Draft := ⟨[], 0, none⟩

def add (draft : Draft) (set : CharSet) (depth : Nat) : Draft :=
  { draft with items := set :: draft.items, depth := max draft.depth depth }

def close (flags : Flags) (draft : Draft) : CharSet × Nat :=
  let set := flags.fold (CharSet.unionAll draft.items)
  let depth := if 1 < draft.items.length then draft.depth + 1 else draft.depth
  match draft.before with
  | none => (set, depth)
  | some (operator, first, firstDepth) =>
    let joined := match operator with
      | .inter => first.inter set
      | .diff => first.diff set
      | .symmDiff => first.symmDiff set
    (flags.fold joined, max firstDepth depth + 1)

def operate (flags : Flags) (draft : Draft) (operator : SetOperator) : Draft :=
  let (set, depth) := draft.close flags
  { empty with before := some (operator, set, depth) }

end Draft

def member? (flags : Flags) : List Char → Option (Sign × List Char)
  | [] => none
  | '\\' :: rest => escape? flags rest
  | c :: rest => some (.char c, rest)

def memberSet? (flags : Flags) : Sign → Option CharSet
  | .char c => if flags.wide || c.toNat < 0x80 then some (.single c) else none
  | .chars set => some set
  | .edge _ => none

def members? (flags : Flags) (cs : List Char) : Option (CharSet × List Char) := do
  let (first, rest) ← member? flags cs
  match flags.skip rest with
  | [] => none
  | '-' :: after =>
    match flags.skip after with
    | ']' :: _ => return (← memberSet? flags first, '-' :: after)
    | '-' :: _ => return (← memberSet? flags first, '-' :: after)
    | after =>
      let (last, rest) ← member? flags after
      match first, last with
      | .char low, .char high =>
        let _ ← memberSet? flags first
        let _ ← memberSet? flags last
        if low ≤ high then some (.span low.toNat high.toNat, rest) else none
      | _, _ => none
  | rest => return (← memberSet? flags first, rest)

def kind? (flags : Flags) : List Char → Option (Option CharSet × List Char)
  | '[' :: ':' :: rest => do
    let negated := rest.head? == some '^'
    let (name, rest) ← cutAt? [':'] (if negated then rest.tail else rest)
    match rest with
    | ']' :: rest =>
      let set ← asciiKind? name
      let folded := flags.fold set
      return (if negated then flags.complement? folded else some folded, rest)
    | _ => none
  | _ => none

/-- Members at the front of brackets that would mean something else further on. -/
def frontMembers (flags : Flags) (draft : Draft) : Nat → List Char → Draft × List Char
  | 0, cs => (draft, cs)
  | fuel + 1, '-' :: rest =>
    frontMembers flags (draft.add (.single '-') 0) fuel (flags.skip rest)
  | _, ']' :: rest =>
    if draft.items.isEmpty then (draft.add (.single ']') 0, flags.skip rest)
      else (draft, ']' :: rest)
  | _, cs => (draft, cs)

mutual

def brackets? (flags : Flags) : Nat → List Char → Option ((CharSet × Nat) × List Char)
  | 0, _ => none
  | fuel + 1, cs => do
    let cs := flags.skip cs
    let negated := cs.head? == some '^'
    let cs := if negated then flags.skip cs.tail else cs
    let (draft, cs) := frontMembers flags .empty cs.length cs
    let ((set, depth), rest) ← draft? flags draft fuel cs
    let set ← if negated then flags.complement? set else some set
    return ((set, depth + 1), rest)

def draft? (flags : Flags) (draft : Draft) : Nat → List Char → Option ((CharSet × Nat) × List Char)
  | 0, _ => none
  | fuel + 1, cs =>
    match flags.skip cs with
    | [] => none
    | ']' :: rest => some (draft.close flags, rest)
    | '&' :: '&' :: rest => draft? flags (draft.operate flags .inter) fuel rest
    | '-' :: '-' :: rest => draft? flags (draft.operate flags .diff) fuel rest
    | '~' :: '~' :: rest => draft? flags (draft.operate flags .symmDiff) fuel rest
    | '[' :: rest =>
      match kind? flags ('[' :: rest) with
      | some (set, rest) => do draft? flags (draft.add (← set) 0) fuel rest
      | none => do
        let ((set, depth), rest) ← brackets? flags fuel rest
        draft? flags (draft.add set depth) fuel rest
    | cs => do
      let (set, rest) ← members? flags cs
      draft? flags (draft.add set 0) fuel rest

end

/-! ## Repetitions -/

def count? (flags : Flags) (cs : List Char) : Option (Nat × List Char) := do
  let (digits, rest) := digitsOf cs.length (cs.dropWhile Text.isBlank)
  if digits.isEmpty then none else
  let value := digits.foldl (fun value c => 10 * value + (c.toNat - 48)) 0
  if 0x100000000 ≤ value then none else some (value, flags.skip (rest.dropWhile Text.isBlank))
where
  digitsOf : Nat → List Char → List Char × List Char
    | fuel + 1, c :: rest =>
      if c.isDigit then
        let (more, rest) := digitsOf fuel (flags.skip rest)
        (c :: more, rest)
      else ([], c :: rest)
    | _, cs => ([], cs)

def rounds? (flags : Flags) (cs : List Char) : Option ((Nat × Option Nat) × List Char) := do
  let (least, rest) ← count? flags (flags.skip cs)
  match rest with
  | '}' :: rest => return ((least, some least), rest)
  | ',' :: rest =>
    match flags.skip rest with
    | '}' :: rest => return ((least, none), rest)
    | rest =>
      let (most, rest) ← count? flags rest
      match rest with
      | '}' :: rest => if least ≤ most then some ((least, some most), rest) else none
      | _ => none
  | _ => none

def dropLazy : List Char → List Char
  | '?' :: rest => rest
  | cs => cs

/-! ## Whole patterns -/

/-- A part of a pattern with its depth. What only sets flags cannot be repeated. -/
structure Part where
  pattern : Pattern
  depth : Nat
  isFlags : Bool

structure Reading where
  rest : List Char
  flags : Flags
  /-- The names of groups so far. -/
  names : List (List Char)

def signPattern (flags : Flags) : Sign → Pattern
  | .char c => .one (flags.fold (.single c))
  | .chars set => .one set
  | .edge condition => .edge condition

def joinParts : List Part → Part
  | [] => ⟨.empty, 0, false⟩
  | [part] => part
  | parts =>
    let patterns := parts.reverse.map Part.pattern
    let depth := (parts.map Part.depth).foldl max 0
    ⟨patterns.dropLast.foldr .seq (patterns.getLast?.getD .empty), depth + 1, false⟩

def joinBranches : List Part → Part
  | [] => ⟨.empty, 0, false⟩
  | [branch] => branch
  | branches =>
    let patterns := branches.reverse.map Part.pattern
    let depth := (branches.map Part.depth).foldl max 0
    ⟨patterns.dropLast.foldr .alt (patterns.getLast?.getD .empty), depth + 1, false⟩

def repeatLast? (parts : List Part) (least : Nat) (most : Option Nat) : Option (List Part) :=
  match parts with
  | part :: rest =>
    if part.isFlags then none
    else some (⟨.times part.pattern least most, part.depth + 1, false⟩ :: rest)
  | [] => none

def flags? (flags : Flags) (seen : List Char) (value : Bool) :
    List Char → Option (Flags × List Char × List Char)
  | [] => none
  | c :: rest =>
    if c == ':' || c == ')' then
      if seen.head? == some '-' then none else some (flags, seen, c :: rest)
    else if seen.contains c then none
    else if c == '-' then flags? flags (c :: seen) false rest
    else do flags? (← flags.set? value c) (c :: seen) value rest

def alphabetic : CharSet := (Text.propertySet? "alphabetic".toList).getD .empty

def numeric : CharSet := Text.ofCategories ["Nd", "Nl", "No"]

def isNameChar (first : Bool) (c : Char) : Bool :=
  c == '_' || alphabetic.holds c.toNat ||
    (!first && (c == '.' || c == '[' || c == ']' || numeric.holds c.toNat))

def groupName? (names : List (List Char)) (cs : List Char) : Option (List Char × List Char) := do
  let (name, rest) ← cutAt? ['>'] cs
  match name with
  | first :: more =>
    if isNameChar true first && more.all (isNameChar false) && !names.contains name then
      some (name, rest)
    else none
  | [] => none

def isLookAround (cs : List Char) : Bool :=
  ["?=", "?!", "?<=", "?<!"].any fun mark => mark.toList.isPrefixOf cs

mutual

def branches? : Nat → Reading → List Part → List Part → Option (Part × Reading)
  | 0, _, _, _ => none
  | fuel + 1, reading, parts, branches =>
    let flags := reading.flags
    let continueAt (rest : List Char) (parts : List Part) :=
      branches? fuel { reading with rest } parts branches
    match flags.skip reading.rest with
    | [] => some (joinBranches (joinParts parts :: branches), { reading with rest := [] })
    | ')' :: rest =>
      some (joinBranches (joinParts parts :: branches), { reading with rest := ')' :: rest })
    | '|' :: rest => branches? fuel { reading with rest } [] (joinParts parts :: branches)
    | '(' :: rest => do
      let (part, reading) ← group? fuel { reading with rest := flags.skip rest }
      branches? fuel reading (part :: parts) branches
    | '[' :: rest => do
      let ((set, depth), rest) ← brackets? flags (2 * rest.length + 2) rest
      continueAt rest (⟨.one set, depth, false⟩ :: parts)
    | '?' :: rest => do continueAt (dropLazy rest) (← repeatLast? parts 0 (some 1))
    | '*' :: rest => do continueAt (dropLazy rest) (← repeatLast? parts 0 none)
    | '+' :: rest => do continueAt (dropLazy rest) (← repeatLast? parts 1 none)
    | '{' :: rest => do
      let ((least, most), rest) ← rounds? flags rest
      continueAt (dropLazy (flags.skip rest)) (← repeatLast? parts least most)
    | '.' :: rest =>
      if flags.wide then
        let ends := if flags.returns then CharSet.ofRanges [(0x0A, 0x0A), (0x0D, 0x0D)]
          else .single '\n'
        let set := if flags.dotAll then CharSet.all else ends.complement
        continueAt rest (⟨.one set, 0, false⟩ :: parts)
      else none
    | '^' :: rest =>
      let edge := if flags.manyLines then Edge.lineStart flags.returns else .textStart
      continueAt rest (⟨.edge edge, 0, false⟩ :: parts)
    | '$' :: rest =>
      let edge := if flags.manyLines then Edge.lineEnd flags.returns else .textEnd
      continueAt rest (⟨.edge edge, 0, false⟩ :: parts)
    | '\\' :: rest => do
      let (sign, rest) ← escape? flags rest
      continueAt rest (⟨signPattern flags sign, 0, false⟩ :: parts)
    | c :: rest => continueAt rest (⟨signPattern flags (.char c), 0, false⟩ :: parts)

def group? : Nat → Reading → Option (Part × Reading)
  | 0, _ => none
  | fuel + 1, reading =>
    if isLookAround reading.rest then none
    else match reading.rest with
      | '?' :: 'P' :: '<' :: rest => do
        let (name, rest) ← groupName? reading.names rest
        body? fuel { reading with rest, names := name :: reading.names } reading.flags true
      | '?' :: '<' :: rest => do
        let (name, rest) ← groupName? reading.names rest
        body? fuel { reading with rest, names := name :: reading.names } reading.flags true
      | '?' :: rest => do
        let (flags, seen, rest) ← flags? reading.flags [] true rest
        match rest with
        | ')' :: rest =>
          if seen.isEmpty then none
          else some (⟨.empty, 0, true⟩, { reading with rest, flags })
        | _ => body? fuel { reading with rest := rest.tail, flags } reading.flags false
      | _ => body? fuel reading reading.flags true

def body? : Nat → Reading → Flags → Bool → Option (Part × Reading)
  | 0, _, _, _ => none
  | fuel + 1, reading, outer, remembered => do
    let (part, reading) ← branches? fuel reading [] []
    match reading.rest with
    | ')' :: rest =>
      let pattern := if remembered then .group part.pattern else part.pattern
      return (⟨pattern, part.depth + 1, false⟩, { reading with rest, flags := outer })
    | _ => none

end

def maxDepth : Nat := 250

/-- Reads a pattern. Every second step of the reading consumes a character, so the bound on the
steps is never reached. -/
def read? (text : List Char) : Option Pattern := do
  let (part, reading) ← branches? (3 * text.length + 3) ⟨text, .start, []⟩ [] []
  if reading.rest.isEmpty && part.depth ≤ maxDepth && !part.pattern.isTooLarge then
    some part.pattern
  else none

end QuoteLint.Pattern
