/-! Lines of the form `key: "value"` and `key: 'value'` whose value is quoted badly. A text is
judged as a whole, and may hold newlines. -/

namespace QuoteLint.Scalar

def isSpacing (c : Char) : Bool :=
  c == '\t' || c == '\n' || c == '\x0c' || c == '\r' || c == ' '

def isWord (c : Char) : Bool := c.isAlphanum || c == '_'

def isKeyChar (c : Char) : Bool := isWord c || c == '-' || c == '.' || c == '/'

/-- A key has two characters or more, and a word character at either end. -/
def isKey (cs : List Char) : Bool :=
  cs.all isKeyChar && 2 ≤ cs.length && cs.head?.any isWord && cs.getLast?.any isWord

def value? (text : List Char) : Option (List Char) :=
  let start := text.dropWhile isSpacing
  if isKey (start.takeWhile isKeyChar) then
    match (start.dropWhile isKeyChar).dropWhile isSpacing with
    | ':' :: rest => some (rest.dropWhile isSpacing)
    | _ => none
  else none

def endsInTwoQuotes : Nat → List Char → Bool
  | run, [] => 2 ≤ run
  | run, '"' :: rest => endsInTwoQuotes (run + 1) rest
  | _, '\\' :: '\n' :: _ => false
  | _, '\\' :: _ :: rest => endsInTwoQuotes 0 rest
  | _, ['\\'] => false
  | _, _ :: rest => endsInTwoQuotes 0 rest

/-- A double-quoted value that holds an unescaped quote and ends in two, as `name: "John "Doe""`
does. -/
def isBadDouble (text : List Char) : Bool :=
  match value? text with
  | some ('"' :: rest) => endsInTwoQuotes 0 rest
  | _ => false

def isFreeOfSingle (cs : List Char) : Bool := cs.all (· != '\'')

def isBadSingleBody (body : List Char) : Bool :=
  (body.head? == some '\'' && isFreeOfSingle body.tail) ||
  (body.getLast? == some '\'' && body.dropLast.all fun c => c != '\'' && c != '{' && c != '}') ||
  (match body.dropWhile (· != '\'') with
    | '\'' :: '\'' :: rest => isFreeOfSingle rest
    | _ => false)

/-- A single-quoted value with a further quoted span in it, as in `name: 'it''s'`. -/
def isBadSingle (text : List Char) : Bool :=
  match value? text with
  | some ('\'' :: rest) => rest.getLast? == some '\'' && isBadSingleBody rest.dropLast
  | _ => false

end QuoteLint.Scalar
