import QuoteLint.Editor.Address.Host

/-! Addresses of documents, and the one spelling that stands for each of them. An address is a
scheme, a colon, perhaps an authority after two slashes, a path, and perhaps a query and a
fragment. -/

namespace QuoteLint.Editor.Address

inductive Scheme where
  | file
  /-- The schemes of the network, each with the service that goes without saying. -/
  | network (name : String) (service : Nat)
  | other (name : String)
  deriving DecidableEq, Repr

namespace Scheme

def ofName (name : String) : Scheme :=
  match name with
  | "file" => .file
  | "http" => .network name 80
  | "https" => .network name 443
  | "ws" => .network name 80
  | "wss" => .network name 443
  | "ftp" => .network name 21
  | _ => .other name

def name : Scheme → String
  | .file => "file"
  | .network name _ => name
  | .other name => name

def isSlash (scheme : Scheme) (c : Char) : Bool :=
  c == '/' || (c == '\\' && match scheme with
    | .other _ => false
    | _ => true)

end Scheme

def isSchemeChar (c : Char) : Bool := c.isAlphanum || c == '+' || c == '-' || c == '.'

def scheme? (text : List Char) : Option (Scheme × List Char) :=
  let name := text.takeWhile isSchemeChar
  match text.dropWhile isSchemeChar with
  | ':' :: rest =>
    if name.head?.any Char.isAlpha then
      some (.ofName (String.ofList (name.map Char.toLower)), rest)
    else none
  | _ => none

/-! ## Characters that are written as bytes -/

def isControl (c : Char) : Bool := c.toNat < 0x20 || 0x7E < c.toNat

def inFragment (c : Char) : Bool := isControl c || " \"<>`".toList.contains c

def inQuery (c : Char) : Bool := isControl c || " \"#<>".toList.contains c

def inNetworkQuery (c : Char) : Bool := inQuery c || c == '\''

def inPath (c : Char) : Bool := isControl c || " \"#<>?`\x7b\x7d".toList.contains c

def inUser (c : Char) : Bool := inPath c || "/:;=@[\\]^|".toList.contains c

def upperHex (n : Nat) : Char := (Text.hexDigit n).toUpper

def percentByte (byte : UInt8) : List Char :=
  ['%', upperHex (byte.toNat / 16), upperHex (byte.toNat % 16)]

def encode (escaped : Char → Bool) (text : List Char) : List Char :=
  text.flatMap fun c =>
    if escaped c then (String.singleton c).toUTF8.toList.flatMap percentByte else [c]

/-! ## Authority -/

def cutAtLast? (sign : Char) (text : List Char) : Option (List Char × List Char) :=
  if text.contains sign then
    let reversed := text.reverse
    some ((reversed.dropWhile (· != sign)).tail.reverse, (reversed.takeWhile (· != sign)).reverse)
  else none

def user (text : List Char) : List Char :=
  let name := text.takeWhile (· != ':')
  let password := (text.dropWhile (· != ':')).tail
  let written := encode inUser name ++ if password.isEmpty then []
      else ':' :: encode inUser password
  if written.isEmpty then [] else written ++ ['@']

def cutService (inside : Bool) : List Char → List Char × Option (List Char)
  | [] => ([], none)
  | c :: rest =>
    if c == ':' && !inside then ([], some rest)
    else
      let inside := c == '[' || (inside && c != ']')
      let (host, service) := cutService inside rest
      (c :: host, service)

def service? (scheme : Scheme) : Option (List Char) → Option (List Char)
  | none => some []
  | some [] => some []
  | some digits =>
    if digits.all Char.isDigit then do
      let value ← digits? 10 digits
      if 65535 < value then none
      else match scheme with
        | .network _ known => some (if value == known then [] else ':' :: (toString value).toList)
        | _ => some (':' :: (toString value).toList)
    else none

def host? (scheme : Scheme) (text : List Char) : Option (List Char) :=
  match scheme with
  | .other _ =>
    if text.head? == some '[' then bracketed? text
    else if text.any isForbidden then none
    else some (encode isControl text)
  | _ => namedHost? text

def authority? (scheme : Scheme) (text : List Char) : Option (List Char) := do
  let (before, after) := (cutAtLast? '@' text).getD ([], text)
  let (hostText, serviceText) := cutService false after
  let host ← host? scheme hostText
  let service ← service? scheme serviceText
  if host.isEmpty && (serviceText.isSome || text.contains '@') then none
  else some (user before ++ host ++ service)

/-! ## Path -/

def isDriveLetter : List Char → Bool
  | [letter, mark] => letter.isAlpha && (mark == ':' || mark == '|')
  | _ => false

def undotted : List Char → List Char
  | '%' :: '2' :: 'e' :: rest => '.' :: undotted rest
  | '%' :: '2' :: 'E' :: rest => '.' :: undotted rest
  | c :: rest => c :: undotted rest
  | [] => []

/-- Takes the last segment away, but no drive that stands alone in the path of a file. -/
def shorten (scheme : Scheme) (segments : List (List Char)) : List (List Char) :=
  match scheme, segments with
  | .file, [[letter, ':']] => if letter.isAlpha then segments else []
  | _, _ => segments.dropLast

def addSegment (scheme : Scheme) (done : List (List Char)) (segment : List Char) :
    List (List Char) :=
  match scheme, done with
  | .file, [] =>
    if isDriveLetter segment then [segment.take 1 ++ [':']] else [encode inPath segment]
  | _, _ => done ++ [encode inPath segment]

def walk (scheme : Scheme) (done : List (List Char)) : List (List Char) → List (List Char)
  | [] => done
  | segment :: rest =>
    let isLast := rest.isEmpty
    let next := match undotted segment with
      | ['.', '.'] => if isLast then shorten scheme done ++ [[]] else shorten scheme done
      | ['.'] => if isLast then done ++ [[]] else done
      | _ => addSegment scheme done segment
    walk scheme next rest

def printSegments (segments : List (List Char)) : List Char := segments.flatMap ('/' :: ·)

def pathAfterSlash (scheme : Scheme) (text : List Char) : List (List Char) :=
  walk scheme [] (text.splitOnP scheme.isSlash)

def pathAfterAuthority (scheme : Scheme) (text : List Char) : List Char :=
  match scheme, text with
  | .other _, [] => []
  | _, _ :: rest => printSegments (pathAfterSlash scheme rest)
  | _, [] => ['/']

/-! ## Whole addresses -/

def cutAtFirst (sign : Char) (text : List Char) : List Char × Option (List Char) :=
  match text.dropWhile (· != sign) with
  | _ :: rest => (text.takeWhile (· != sign), some rest)
  | [] => (text, none)

def withAuthority? (scheme : Scheme) (text : List Char) : Option (List Char) := do
  let authority ← authority? scheme (text.takeWhile (!scheme.isSlash ·))
  some (['/', '/'] ++ authority ++ pathAfterAuthority scheme (text.dropWhile (!scheme.isSlash ·)))

/-- The address of a file. A drive is no host, and the own host is not named. -/
def file? (text : List Char) : Option (List Char) :=
  let isSlash := Scheme.file.isSlash
  match text with
  | first :: second :: rest =>
    if isSlash first && isSlash second then
      let hostText := rest.takeWhile (!isSlash ·)
      if isDriveLetter hostText then some ("//".toList ++ printSegments (pathAfterSlash .file rest))
      else if hostText.isEmpty then some ("//".toList ++ pathAfterAuthority .file rest)
      else do
        let host ← namedHost? hostText
        let host := if String.ofList host == "localhost" then [] else host
        some ("//".toList ++ host ++ pathAfterAuthority .file (rest.dropWhile (!isSlash ·)))
    else
      let path := if isSlash first then second :: rest else text
      some ("//".toList ++ printSegments (pathAfterSlash .file path))
  | [first] =>
    let path := if isSlash first then [] else [first]
    some ("//".toList ++ printSegments (pathAfterSlash .file path))
  | [] => some "///".toList

def withoutAuthority (scheme : Scheme) (text : List Char) : List Char :=
  match text with
  | '/' :: rest =>
    match pathAfterSlash scheme rest with
    | [] :: next :: more => "/.".toList ++ printSegments ([] :: next :: more)
    | segments => printSegments segments
  | _ => encode isControl text

def hierarchy? (scheme : Scheme) (text : List Char) : Option (List Char) :=
  match scheme, text with
  | .file, _ => file? text
  | .network .., _ => withAuthority? scheme (text.dropWhile scheme.isSlash)
  | .other _, '/' :: '/' :: rest => withAuthority? scheme rest
  | .other _, _ => some (withoutAuthority scheme text)

def inQueryOf (scheme : Scheme) : Char → Bool :=
  match scheme with
  | .other _ => inQuery
  | _ => inNetworkQuery

def strip (text : List Char) : List Char :=
  ((text.dropWhile (· ≤ ' ')).reverse.dropWhile (· ≤ ' ')).reverse

/-- The one spelling that stands for an address, if the text is one. -/
def normalize? (text : String) : Option String := do
  let cs := (strip text.toList).filter fun c => c != '\t' && c != '\n' && c != '\r'
  let (scheme, rest) ← scheme? cs
  let (rest, fragment) := cutAtFirst '#' rest
  let (rest, query) := cutAtFirst '?' rest
  let hierarchy ← hierarchy? scheme rest
  let query := query.elim [] fun text => '?' :: encode (inQueryOf scheme) text
  let fragment := fragment.elim [] fun text => '#' :: encode inFragment text
  return scheme.name ++ ":" ++ String.ofList (hierarchy ++ query ++ fragment)

end QuoteLint.Editor.Address
