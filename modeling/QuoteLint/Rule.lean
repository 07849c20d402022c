import QuoteLint.Log

/-! Rules and what they find. -/

namespace QuoteLint

inductive Severity where
  | error
  | warning
  | info
  deriving DecidableEq, Repr

namespace Severity

def name : Severity → String
  | .error => "error"
  | .warning => "warning"
  | .info => "info"

def ofName? : String → Option Severity
  | "error" => some .error
  | "warning" => some .warning
  | "info" => some .info
  | _ => none

end Severity

structure Violation where
  ruleId : String
  shortMessage : String
  message : String
  line : Nat
  text : String
  deriving DecidableEq, Repr

structure Rule where
  id : String
  name : String
  shortDescription : String
  fullDescription : String
  level : Severity
  run : String → List Violation
  /-- What the log is told of one finding. -/
  trace : Violation → List LogRecord := fun _ => []

end QuoteLint
