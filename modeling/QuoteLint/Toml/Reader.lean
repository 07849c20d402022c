import QuoteLint.Toml.Item
import QuoteLint.Toml.Quoted

/-! Reading a settings file into one table. -/

namespace QuoteLint.Toml

def skipBlanks (cs : List Char) : List Char := cs.dropWhile isBlank

def comment? : List Char → Option (List Char)
  | [] => some []
  | '\n' :: rest => some ('\n' :: rest)
  | '\r' :: '\n' :: rest => some ('\r' :: '\n' :: rest)
  | c :: rest => if isPlain c then comment? rest else none

def trailing? (cs : List Char) : Option (List Char) :=
  match skipBlanks cs with
  | '#' :: rest => comment? rest
  | rest => some rest

def lineEnd? : List Char → Option (List Char)
  | [] => some []
  | '\n' :: rest => some rest
  | '\r' :: '\n' :: rest => some rest
  | _ => none

def skipLines? : Nat → List Char → Option (List Char)
  | 0, _ => none
  | lines + 1, cs =>
    match trailing? cs with
    | some ('\n' :: rest) => skipLines? lines rest
    | some ('\r' :: '\n' :: rest) => skipLines? lines rest
    | some rest => some rest
    | none => none

def isBareKey (c : Char) : Bool := c.isAlphanum || c == '_' || c == '-'

def simpleKey? (cs : List Char) : Option (String × List Char) :=
  match cs with
  | '"' :: rest => (basic? rest).map fun (key, rest) => (String.ofList key, rest)
  | '\'' :: rest => (literal? rest).map fun (key, rest) => (String.ofList key, rest)
  | _ =>
    let key := cs.takeWhile isBareKey
    if key.isEmpty then none else some (String.ofList key, cs.drop key.length)

def keys? : Nat → List Char → Option (List String × List Char)
  | 0, _ => none
  | parts + 1, cs => do
    let (key, rest) ← simpleKey? cs
    match skipBlanks rest with
    | '.' :: rest =>
      let (more, rest) ← keys? parts (skipBlanks rest)
      return (key :: more, rest)
    | rest => return ([key], rest)

mutual

def item? : Nat → List Char → Option (Item × List Char)
  | 0, _ => none
  | fuel + 1, cs =>
    match cs with
    | '[' :: rest => do
      let (items, rest) ← items? fuel rest
      return (.list items, rest)
    | '{' :: rest => do
      let (table, rest) ← members? fuel (.empty .inline) rest
      return (table.item, rest)
    | _ => (text? cs).map fun (text, rest) => (.text (String.ofList text), rest)

def items? : Nat → List Char → Option (List Item × List Char)
  | 0, _ => none
  | fuel + 1, cs => do
    let cs ← skipLines? fuel cs
    match cs with
    | ']' :: rest => return ([], rest)
    | _ =>
      let (item, rest) ← item? fuel cs
      let rest ← skipLines? fuel rest
      match rest with
      | ',' :: rest =>
        let (more, rest) ← items? fuel rest
        return (item :: more, rest)
      | ']' :: rest => return ([item], rest)
      | _ => none

def members? : Nat → Table → List Char → Option (Table × List Char)
  | 0, _, _ => none
  | fuel + 1, table, cs => do
    let cs ← skipLines? fuel cs
    match cs with
    | '}' :: rest => return (table, rest)
    | _ =>
      let (keys, rest) ← keys? fuel cs
      match ← skipLines? fuel rest with
      | '=' :: rest =>
        let (item, rest) ← item? fuel (← skipLines? fuel rest)
        let table ← table.assign keys item
        let rest ← skipLines? fuel rest
        match rest with
        | ',' :: rest => members? fuel table rest
        | '}' :: rest => return (table, rest)
        | _ => none
      | _ => none

end

def statement? (fuel : Nat) (cs : List Char) : Option (Statement × List Char) :=
  match cs with
  | '[' :: rest => do
    let (keys, rest) ← keys? fuel (skipBlanks rest)
    match rest with
    | ']' :: rest =>
      let rest ← trailing? rest
      let rest ← lineEnd? rest
      return (.header keys, rest)
    | _ => none
  | _ => do
    let (keys, rest) ← keys? fuel cs
    match rest with
    | '=' :: rest =>
      let (item, rest) ← item? fuel (skipBlanks rest)
      let rest ← trailing? rest
      let rest ← lineEnd? rest
      return (.assignment keys item, rest)
    | _ => none

def statements? : Nat → List Char → Option (List Statement)
  | 0, _ => none
  | fuel + 1, cs => do
    let cs ← skipLines? (fuel + 1) cs
    if cs.isEmpty then return [] else
    let (statement, rest) ← statement? fuel cs
    let more ← statements? fuel rest
    return statement :: more

def dropByteOrderMark : List Char → List Char
  | c :: rest => if c.toNat = 0xFEFF then rest else c :: rest
  | [] => []

/-- Reads a whole file. Every step of the reading consumes a character, so the bound on the steps is
never reached. -/
def read? (content : String) : Option Table := do
  let cs := dropByteOrderMark content.toList
  let statements ← statements? (3 * cs.length + 3) cs
  build (.empty .header) [] statements

end QuoteLint.Toml
