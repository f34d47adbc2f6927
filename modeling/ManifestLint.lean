import ManifestLint.Declaration
import ManifestLint.Disk
import ManifestLint.Lexeme
import ManifestLint.Main
import ManifestLint.Proofs.AutoloadNames
import ManifestLint.Proofs.CheckRun
import ManifestLint.Proofs.DumpTexts
import ManifestLint.Proofs.EnclosingClasses
import ManifestLint.Proofs.GuardedRules
import ManifestLint.Proofs.GuardedTokens
import ManifestLint.Proofs.InheritedClasses
import ManifestLint.Proofs.Labels
import ManifestLint.Proofs.Namespaces
import ManifestLint.Proofs.Nesting
import ManifestLint.Proofs.Pairs
import ManifestLint.Proofs.ParameterGrammar
import ManifestLint.Proofs.RangeLimits
import ManifestLint.Proofs.RoundTrip
import ManifestLint.Proofs.RuleTables
import ManifestLint.Proofs.Selection
import ManifestLint.Proofs.StartingConfig
import ManifestLint.Proofs.TextReport
import ManifestLint.Proofs.TokenBoundaries
import ManifestLint.Proofs.UndeclaredVariables
