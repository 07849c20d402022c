import QuoteLint.Editor.Address
import QuoteLint.Json

/-! Shapes of JSON values, by which the parameters of messages are checked before they are read. -/

namespace QuoteLint.Editor

/-- Whether a field must be there. An optional one may be left out or be null, one with a default
may only be left out. -/
inductive Presence where
  | needed
  | optional
  | defaulted
  deriving DecidableEq, Repr

inductive Shape where
  | anything
  | null
  | flag
  | text
  /-- The address of a document. -/
  | uri
  /-- A whole number of 32 bits without a sign. -/
  | unsigned
  /-- A whole number of 32 bits with a sign. -/
  | signed
  | number
  /-- One of some words, alone or as the one field of an object, with null for its value. -/
  | word (words : List String)
  | listOf (item : Shape)
  | tuple (items : List Shape)
  | mapOf (keys values : Shape)
  | either (choices : List Shape)
  /-- Fields by name. With `ordered`, a list of all values in this order will do. -/
  | record (ordered : Bool) (fields : List (String × Presence × Shape))
  /-- Fields by name, where all others have a shape too. -/
  | openRecord (fields : List (String × Presence × Shape)) (others : Shape)
  /-- A field names one of the choices, or the first item of a list does. -/
  | tagged (tag : String) (choices : List (String × Shape))

namespace Shape

def members : List (String × Json) → List (String × Json)
  | [] => []
  | (name, value) :: rest =>
    if rest.any (·.1 == name) then members rest else (name, value) :: members rest

def fitsInt (low high : Int) : Json → Bool
  | .int n => low ≤ n && n < high
  | _ => false

def isNumber : Json → Bool
  | .int _ => true
  | .real _ => true
  | _ => false

def isNull : Json → Bool
  | .null => true
  | _ => false

def isWord (words : List String) : Json → Bool
  | .text name => words.contains name
  | .object fields =>
    match members fields with
    | [(name, .null)] => words.contains name
    | _ => false
  | _ => false

def fitsLeaf : Shape → Json → Bool
  | .anything, _ => true
  | .null, value => isNull value
  | .flag, .bool _ => true
  | .text, .text _ => true
  | .uri, .text address => (Address.normalize? address).isSome
  | .unsigned, value => fitsInt 0 0x100000000 value
  | .signed, value => fitsInt (-0x80000000) 0x80000000 value
  | .number, value => isNumber value
  | .word words, value => isWord words value
  | _, _ => false

def isTag (name : String) (index : Nat) : Json → Bool
  | .text tag => tag == name
  | .int n => n == index
  | _ => false

mutual

def fits : Shape → Json → Bool
  | .listOf item, .list items => items.all (fits item)
  | .tuple shapes, .list items => eachFits shapes items
  | .mapOf keys values, .object fields =>
    (members fields).all fun (name, value) => fits keys (.text name) && fits values value
  | .either choices, value => anyFits choices value
  | .record _ fields, .object values => fieldsFit fields (.object values)
  | .record ordered fields, .list items => ordered && itemsFit fields items
  | .openRecord fields others, .object values =>
    fieldsFit fields (.object values) &&
      (members values).all fun (name, value) =>
        fields.any (fun field => field.1 == name) || fits others value
  | .tagged tag choices, .object fields =>
    ((Json.object fields).field? tag).any fun held => choiceFits held choices 0 (.object fields)
  | .tagged _ choices, .list (held :: items) => choiceFits held choices 0 (.list items)
  | shape, value => fitsLeaf shape value

def fieldsFit : List (String × Presence × Shape) → Json → Bool
  | [], _ => true
  | (name, presence, shape) :: rest, value =>
    (match value.field? name with
      | some held => fits shape held || (presence == .optional && isNull held)
      | none => presence != .needed) && fieldsFit rest value

/-- In a list only fields with a default may be left out, from some item on. -/
def itemsFit : List (String × Presence × Shape) → List Json → Bool
  | [], items => items.isEmpty
  | (_, presence, _) :: rest, [] => presence == .defaulted && itemsFit rest []
  | (_, presence, shape) :: rest, item :: items =>
    (fits shape item || (presence == .optional && isNull item)) && itemsFit rest items

def eachFits : List Shape → List Json → Bool
  | [], items => items.isEmpty
  | shape :: rest, item :: items => fits shape item && eachFits rest items
  | _, _ => false

def anyFits : List Shape → Json → Bool
  | [], _ => false
  | shape :: rest, value => fits shape value || anyFits rest value

def choiceFits (tag : Json) : List (String × Shape) → Nat → Json → Bool
  | [], _, _ => false
  | (name, shape) :: rest, index, value =>
    if isTag name index tag then fits shape value else choiceFits tag rest (index + 1) value

end

/-! ## Fields -/

abbrev Field := String × Presence × Shape

def need (name : String) (shape : Shape) : Field := (name, .needed, shape)

def may (name : String) (shape : Shape) : Field := (name, .optional, shape)

def orDefault (name : String) (shape : Shape) : Field := (name, .defaulted, shape)

def mayEach (names : List String) (shape : Shape) : List Field := names.map (may · shape)

def ordered (fields : List Field) : Shape := .record true fields

def byName (fields : List Field) : Shape := .record false fields

def get? (shape : Shape) (name : String) (value : Json) : Option Json :=
  match shape, value with
  | .record _ fields, .list items =>
    ((fields.map (·.1)).zip items).lookup name
  | _, value => value.field? name

end Shape

end QuoteLint.Editor
