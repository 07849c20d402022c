/-! Texts and their bytes. Bytes that are no UTF-8 still have a form that can be shown. -/

namespace QuoteLint.Text

def utf8 (text : String) : List UInt8 := text.toUTF8.data.toList

def decode? (bytes : List UInt8) : Option String := String.fromUTF8? ⟨bytes.toArray⟩

def takeBytes? (cs : List Char) (count : Nat) : Option (List Char) :=
  (String.fromUTF8? ((String.ofList cs).toUTF8.extract 0 count)).map String.toList

/-- A character of which some bytes have been read: the value so far, the range of the next byte,
and how many follow that one. -/
structure Partial where
  value : Nat
  low : UInt8
  high : UInt8
  more : Nat

def Partial.begin? (byte : UInt8) : Option Partial :=
  let value := byte.toNat
  if byte < 0xc2 then none
  else if byte < 0xe0 then some ⟨value - 0xc0, 0x80, 0xbf, 0⟩
  else if byte = 0xe0 then some ⟨0, 0xa0, 0xbf, 1⟩
  else if byte = 0xed then some ⟨13, 0x80, 0x9f, 1⟩
  else if byte < 0xf0 then some ⟨value - 0xe0, 0x80, 0xbf, 1⟩
  else if byte = 0xf0 then some ⟨0, 0x90, 0xbf, 2⟩
  else if byte < 0xf4 then some ⟨value - 0xf0, 0x80, 0xbf, 2⟩
  else if byte = 0xf4 then some ⟨4, 0x80, 0x8f, 2⟩
  else none

def replacement : Char := '�'

def showFirst (byte : UInt8) : List Char × Option Partial :=
  if byte < 0x80 then ([Char.ofNat byte.toNat], none)
  else match Partial.begin? byte with
    | some begun => ([], some begun)
    | none => ([replacement], none)

/-- One byte more. A byte out of range ends the character before it and is read anew. -/
def showByte (held : Option Partial) (byte : UInt8) : List Char × Option Partial :=
  match held with
  | none => showFirst byte
  | some ⟨value, low, high, more⟩ =>
    if low ≤ byte ∧ byte ≤ high then
      let value := value * 64 + (byte.toNat - 0x80)
      match more with
      | 0 => ([Char.ofNat value], none)
      | more + 1 => ([], some ⟨value, 0x80, 0xbf, more⟩)
    else
      let (shown, begun) := showFirst byte
      (replacement :: shown, begun)

def showFrom (held : Option Partial) : List UInt8 → List Char
  | [] => if held.isSome then [replacement] else []
  | byte :: rest =>
    let (shown, begun) := showByte held byte
    shown ++ showFrom begun rest

def display (bytes : List UInt8) : String :=
  (decode? bytes).getD (String.ofList (showFrom none bytes))

end QuoteLint.Text
