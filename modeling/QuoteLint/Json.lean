import QuoteLint.Text.Hex

/-! JSON values and their printed forms. -/

namespace QuoteLint

/-- A number written without fraction and exponent is held by its value, any other by its spelling.
An object keeps its fields in order. -/
inductive Json where
  | null
  | bool (value : Bool)
  | int (value : Int)
  | real (spelling : String)
  | text (value : String)
  | list (items : List Json)
  | object (fields : List (String × Json))

namespace Json

def escapeChar (c : Char) : List Char :=
  if c = '"' then ['\\', '"']
  else if c = '\\' then ['\\', '\\']
  else if c = '\x08' then ['\\', 'b']
  else if c = '\x0c' then ['\\', 'f']
  else if c = '\n' then ['\\', 'n']
  else if c = '\r' then ['\\', 'r']
  else if c = '\t' then ['\\', 't']
  else if c.toNat < 0x20 then
    ['\\', 'u', '0', '0', Text.hexDigit (c.toNat / 16), Text.hexDigit (c.toNat % 16)]
  else [c]

def quote (s : String) : List Char := '"' :: s.toList.flatMap escapeChar ++ ['"']

def printInt (n : Int) : List Char := (toString n).toList

def scalar : Json → List Char
  | .null => "null".toList
  | .bool true => "true".toList
  | .bool false => "false".toList
  | .int n => printInt n
  | .real spelling => spelling.toList
  | .text s => quote s
  | .list _ => "[]".toList
  | .object _ => "\x7b\x7d".toList

mutual

def compact : Json → List Char
  | .list items => '[' :: compactItems items ++ [']']
  | .object fields => '{' :: compactFields fields ++ ['}']
  | value => scalar value

def compactItems : List Json → List Char
  | [] => []
  | [item] => compact item
  | item :: next :: rest => compact item ++ ',' :: compactItems (next :: rest)

def compactFields : List (String × Json) → List Char
  | [] => []
  | [(name, value)] => quote name ++ ':' :: compact value
  | (name, value) :: next :: rest =>
    quote name ++ ':' :: compact value ++ ',' :: compactFields (next :: rest)

end

def newline (depth : Nat) : List Char := '\n' :: List.replicate (2 * depth) ' '

mutual

/-- The value over several lines: each item and each field on a line of its own, unless there is
none. -/
def pretty (depth : Nat) : Json → List Char
  | .list (item :: rest) => '[' :: prettyItems (depth + 1) (item :: rest) ++ newline depth ++ [']']
  | .object (field :: rest) =>
      '{' :: prettyFields (depth + 1) (field :: rest) ++ newline depth ++ ['}']
  | value => scalar value

def prettyItems (depth : Nat) : List Json → List Char
  | [] => []
  | [item] => newline depth ++ pretty depth item
  | item :: next :: rest =>
    newline depth ++ pretty depth item ++ ',' :: prettyItems depth (next :: rest)

def prettyFields (depth : Nat) : List (String × Json) → List Char
  | [] => []
  | [(name, value)] => newline depth ++ quote name ++ ':' :: ' ' :: pretty depth value
  | (name, value) :: next :: rest =>
    newline depth ++ quote name ++ ':' :: ' ' :: pretty depth value ++
      ',' :: prettyFields depth (next :: rest)

end

/-- The value of a field; where a name is repeated, its last value counts. -/
def field? (name : String) : Json → Option Json
  | .object fields => (fields.reverse.find? (·.1 == name)).map (·.2)
  | _ => none

end Json

end QuoteLint
