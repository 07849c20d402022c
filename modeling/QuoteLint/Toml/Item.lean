/-! The values of a settings file, and the rules by which its statements add up to one table.
Settings hold texts, lists and tables; every other value, and every array of tables, is refused when
it is read. -/

namespace QuoteLint.Toml

inductive Origin where
  /-- A header of its own, or the file as a whole. -/
  | header
  /-- The header of a table below it. -/
  | implied
  /-- A dotted key. -/
  | dotted
  /-- Braces; such a table is complete. -/
  | inline
  deriving DecidableEq, Repr

inductive Item where
  | text (value : String)
  | list (items : List Item)
  | table (origin : Origin) (entries : List (String × Item))

structure Table where
  origin : Origin
  entries : List (String × Item)

namespace Table

def empty (origin : Origin) : Table := ⟨origin, []⟩

def item (table : Table) : Item := .table table.origin table.entries

def set (table : Table) (key : String) (sub : Table) : Table :=
  { table with entries := table.entries.filter (·.1 != key) ++ [(key, sub.item)] }

def changeAt (dotted : Bool) (change : Table → Option Table) : List String → Table → Option Table
  | [], table => change table
  | key :: rest, table =>
    match table.entries.lookup key with
    | none => do
      let sub ← changeAt dotted change rest (.empty (if dotted then .dotted else .implied))
      return table.set key sub
    | some (.table origin entries) =>
      if origin = .inline ∨ (dotted ∧ origin = .header) then none
      else do
        let sub ← changeAt dotted change rest ⟨origin, entries⟩
        return table.set key sub
    | some _ => none

/-- Adds an item under a key that is still free. A table made by a dotted key takes items by dotted
keys only, and any other table by plain keys only. -/
def insert (plain : Bool) (key : String) (value : Item) (table : Table) : Option Table :=
  if (table.origin == .dotted) == plain then none
  else if (table.entries.lookup key).isSome then none
  else some { table with entries := table.entries ++ [(key, value)] }

def assign (keys : List String) (value : Item) (table : Table) : Option Table :=
  match keys.getLast? with
  | none => none
  | some key =>
    changeAt true (insert (keys.length == 1) key value) keys.dropLast table

/-- Opens the table of a header below the root. A table may have one header, and needs none. -/
def openHeader (key : String) (table : Table) : Option Table :=
  match table.entries.lookup key with
  | none => some (table.set key (.empty .header))
  | some (.table .implied entries) => some (table.set key ⟨.header, entries⟩)
  | some _ => none

end Table

inductive Statement where
  | header (keys : List String)
  | assignment (keys : List String) (value : Item)

/-- Carries out statements one after another; `place` leads to the table whose header came last. -/
def build (root : Table) (place : List String) : List Statement → Option Table
  | [] => some root
  | .header keys :: rest => do
    let key ← keys.getLast?
    let root ← root.changeAt false (·.openHeader key) keys.dropLast
    build root keys rest
  | .assignment keys value :: rest => do
    let root ← root.changeAt false (·.assign keys value) place
    build root place rest

end QuoteLint.Toml
