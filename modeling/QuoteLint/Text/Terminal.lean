/-! Text without what a terminal would take for a command. A command starts with an escape
character; how far it goes depends on its kind. -/

namespace QuoteLint.Text

inductive TerminalMode where
  | ground
  | escape
  | escapeTail
  | sequence
  | sequenceNumbers
  | sequenceTail
  | sequenceBad
  | device
  | deviceNumbers
  | deviceTail
  | deviceData
  | deviceBad
  | title
  | message
  deriving DecidableEq, Repr

namespace TerminalMode

/-- The modes that end where a byte 0x9C is met, also one within the bytes of a character. -/
def endsAtByte : TerminalMode → Bool
  | .deviceData | .deviceBad | .message => true
  | _ => false

def holdsEndByte (c : Char) : Bool := (String.singleton c).toUTF8.toList.contains 0x9C

def nextPrintable (mode : TerminalMode) (c : Char) : TerminalMode :=
  match mode with
  | .escape =>
    if c ≤ '/' then .escapeTail
    else match c with
      | '[' => .sequence
      | ']' => .title
      | 'P' => .device
      | 'X' | '^' | '_' => .message
      | _ => .ground
  | .escapeTail => if c ≤ '/' then .escapeTail else .ground
  | .sequence => if c ≤ '/' then .sequenceTail else if c ≤ '?' then .sequenceNumbers else .ground
  | .sequenceNumbers =>
    if c ≤ '/' then .sequenceTail
    else if c ≤ ';' then .sequenceNumbers
    else if c ≤ '?' then .sequenceBad
    else .ground
  | .sequenceTail => if c ≤ '/' then .sequenceTail else if c ≤ '?' then .sequenceBad else .ground
  | .sequenceBad => if c ≤ '?' then .sequenceBad else .ground
  | .device =>
    if c ≤ '/' then .deviceTail
    else if c == ':' then .deviceBad
    else if c ≤ '?' then .deviceNumbers
    else .deviceData
  | .deviceNumbers =>
    if c ≤ '/' then .deviceTail
    else if c == ':' || '<' ≤ c && c ≤ '?' then .deviceBad
    else if c ≤ ';' then .deviceNumbers
    else .deviceData
  | .deviceTail => if c ≤ '/' then .deviceTail else if c ≤ '?' then .deviceBad else .deviceData
  | other => other

def next (mode : TerminalMode) (c : Char) : TerminalMode :=
  match c.toNat with
  | 0x18 | 0x1A => .ground
  | 0x1B => .escape
  | 0x07 => if mode = .title then .ground else mode
  | code =>
    if code < 0x20 || code = 0x7F then mode
    else if code < 0x7F then mode.nextPrintable c
    else if mode.endsAtByte && holdsEndByte c then .ground
    else mode

def isSpacing (c : Char) : Bool := ['\t', '\n', '\x0c', '\r'].contains c

def shows (mode : TerminalMode) (c : Char) : Bool :=
  match mode with
  | .ground => isSpacing c || (' ' ≤ c && c.toNat ≠ 0x7F)
  | .escape | .escapeTail | .sequence | .sequenceNumbers | .sequenceTail | .sequenceBad =>
      isSpacing c
  | _ => false

end TerminalMode

/-- What is written of a text. Once something is written, all that the ground mode shows follows it,
and the command that it stands in goes on after that. -/
def plainFrom (mode : TerminalMode) (writing : Bool) : List Char → List Char
  | [] => []
  | c :: rest =>
    if (if writing then TerminalMode.ground else mode).shows c then
      c :: plainFrom (if c.toNat < 0x80 then mode else .ground) true rest
    else plainFrom (mode.next c) false rest

def plain (text : List Char) : List Char := plainFrom .ground false text

end QuoteLint.Text
