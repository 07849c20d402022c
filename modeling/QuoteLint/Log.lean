import QuoteLint.Text.Terminal

/-! Log records and how they are written. -/

namespace QuoteLint

inductive LogLevel where
  | error
  | warn
  | info
  | debug
  | trace
  deriving DecidableEq, Repr

namespace LogLevel

def name : LogLevel → String
  | .error => "ERROR"
  | .warn => "WARN"
  | .info => "INFO"
  | .debug => "DEBUG"
  | .trace => "TRACE"

def detail : LogLevel → Nat
  | .error => 1
  | .warn => 2
  | .info => 3
  | .debug => 4
  | .trace => 5

end LogLevel

structure LogRecord where
  level : LogLevel
  target : String
  text : String
  deriving DecidableEq, Repr

namespace LogRecord

def indent (text : List Char) : List Char :=
  text.flatMap fun c => if c == '\n' then "\n    ".toList else [c]

/-- The level is padded to the width of the longest. Nothing in a record can command the terminal on
which it is read. -/
def render (record : LogRecord) : String :=
  let level := record.level.name
  let padding := String.ofList (List.replicate (5 - level.length) ' ')
  let head := level ++ padding ++ " " ++ record.target ++ "] "
  String.ofList (Text.plain (head.toList ++ indent record.text.toList))

end LogRecord

end QuoteLint
