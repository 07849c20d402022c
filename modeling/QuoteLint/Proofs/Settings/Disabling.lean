import QuoteLint.Proofs.Lint.Builtin
import QuoteLint.Proofs.Lint.Independence

/-! Switching rules off by a list of ids. The list is worked through id by id, with repetitions and
with ids that no rule has; what comes of it is decided by which registered ids are in it. -/

namespace QuoteLint

namespace Registry

end Registry

namespace RuleSettings

variable (registry : Registry) (ids : List String)

end RuleSettings

end QuoteLint
