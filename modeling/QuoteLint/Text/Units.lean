/-! Lengths of texts in the 16-bit units of UTF-16. -/

namespace QuoteLint.Text

/-- A character outside the first plane takes a surrogate pair. -/
def unitsOf (c : Char) : Nat := if c.toNat < 0x10000 then 1 else 2

def units : List Char → Nat
  | [] => 0
  | c :: rest => unitsOf c + units rest

end QuoteLint.Text
