import QuoteLint.Log
import QuoteLint.Pattern.Reader

/-! Which log records are written. A filter is a list of levels and targets, as in
`warn,files=debug`; a pattern after a slash must occur in the message. -/

namespace QuoteLint

structure Directive where
  target : Option String
  detail : Nat
  deriving DecidableEq, Repr

structure LogFilter where
  directives : List Directive
  pattern : Option Pattern
  deriving DecidableEq, Repr

namespace LogFilter

def detail? (name : String) : Option Nat :=
  match String.ofList (name.toList.map Char.toUpper) with
  | "OFF" => some 0
  | "ERROR" => some 1
  | "WARN" => some 2
  | "INFO" => some 3
  | "DEBUG" => some 4
  | "TRACE" => some 5
  | _ => none

def fullDetail : Nat := 5

def directive? (part : List Char) : Option Directive :=
  match (part.splitOn '=').map String.ofList with
  | [word] =>
    match detail? word with
    | some detail => some ⟨none, detail⟩
    | none => some ⟨some word, fullDetail⟩
  | [target, level] =>
    let level := String.ofList (Text.trim level.toList)
    if level.isEmpty then some ⟨some target, fullDetail⟩
    else (detail? level).map (⟨some target, ·⟩)
  | _ => none

def addDirective (directives : List Directive) (new : Directive) : List Directive :=
  if directives.any (·.target == new.target) then
    directives.map fun old => if old.target == new.target then new else old
  else directives ++ [new]

def errorsOnly : List Directive := [⟨none, 1⟩]

/-- A pattern that cannot be read lets every message through. -/
def parse (spec : String) : LogFilter :=
  match spec.toList.splitOn '/' with
  | levels :: patterns =>
    let parts := ((levels.splitOn ',').map Text.trim).filter (!·.isEmpty)
    let directives := (parts.filterMap directive?).foldl addDirective []
    if 1 < patterns.length then ⟨errorsOnly, none⟩
    else ⟨if directives.isEmpty then errorsOnly else directives, patterns.head?.bind Pattern.read?⟩
  | [] => ⟨errorsOnly, none⟩

def directiveFor? (filter : LogFilter) (target : String) : Option Directive :=
  (filter.directives.filter fun directive =>
    (directive.target.getD "").toList.isPrefixOf target.toList).foldl
    (fun best directive =>
      match best with
      | some held =>
        if (directive.target.getD "").utf8ByteSize < (held.target.getD "").utf8ByteSize then best
        else some directive
      | none => some directive) none

def accepts (filter : LogFilter) (record : LogRecord) : Bool :=
  (filter.directiveFor? record.target).any (record.level.detail ≤ ·.detail) &&
    filter.pattern.all (·.occursIn record.text.toList)

end LogFilter

end QuoteLint
