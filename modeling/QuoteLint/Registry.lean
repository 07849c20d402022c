import QuoteLint.NameMap
import QuoteLint.Rule.MismatchedQuotes

/-! The rules that are known, and which of them are switched off. -/

namespace QuoteLint

structure Registry where
  rules : NameMap Rule
  disabled : List String
  named : ∀ entry ∈ rules.entries, entry.2.id = entry.1

namespace Registry

def empty : Registry where
  rules := .empty
  disabled := []
  named := nofun

/-- A rule takes the place of one with the same id, and stays off if that one was off. -/
def add (registry : Registry) (rule : Rule) : Registry where
  rules := registry.rules.insert rule.id rule
  disabled := registry.disabled
  named entry member := by
    rcases NameMap.mem_place member with rfl | member
    · rfl
    · exact registry.named entry member

def builtin : Registry := empty.add MismatchedQuotes.rule

def get? (registry : Registry) (id : String) : Option Rule := registry.rules.find? id

def list (registry : Registry) : List Rule := registry.rules.values

/-- Switches a rule off. The answer tells whether there is such a rule; if not, nothing changes. -/
def disable (registry : Registry) (id : String) : Bool × Registry :=
  if registry.rules.contains id then
    (true, if registry.disabled.contains id then registry
      else { registry with disabled := id :: registry.disabled })
  else (false, registry)

def enable (registry : Registry) (id : String) : Bool × Registry :=
  if registry.rules.contains id then
    (true, { registry with disabled := registry.disabled.filter (· != id) })
  else (false, registry)

def isEnabled (registry : Registry) (id : String) : Bool :=
  registry.rules.contains id && !registry.disabled.contains id

def enabled (registry : Registry) : List Rule :=
  registry.list.filter fun rule => !registry.disabled.contains rule.id

end Registry

end QuoteLint
