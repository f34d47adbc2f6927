import ManifestLint.Proofs.SourceOrder

namespace ManifestLint.Rule.InheritsAcrossNamespaces

open Token Stream Declaration

section Findings

variable {r : Rule} (hr : r.check = .inheritsAcrossNamespaces) (path : String)
include hr

end Findings

end ManifestLint.Rule.InheritsAcrossNamespaces
