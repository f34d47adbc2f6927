import ManifestLint.Config
import ManifestLint.Declaration
import ManifestLint.Manifest
import ManifestLint.Report

namespace ManifestLint

universe u v

/-- What an analyzer asks of its rules. The findings may be any, also of places in other files. -/
class RuleLike (ρ : Type u) where
  name : ρ → String
  configure : RuleTable → ρ → ρ
  findings : ρ → Manifest → List Finding
  events : ρ → Manifest → List Event

instance {ρ : Type u} {σ : Type v} [RuleLike ρ] [RuleLike σ] : RuleLike (ρ ⊕ σ) where
  name := Sum.elim RuleLike.name RuleLike.name
  configure table := Sum.map (RuleLike.configure table) (RuleLike.configure table)
  findings := Sum.elim RuleLike.findings RuleLike.findings
  events := Sum.elim RuleLike.events RuleLike.events

structure Analyzer (ρ : Type u) where
  rules : List ρ
  config : Config
deriving Repr

namespace Analyzer

def override (severity : Option Severity) (f : Finding) : Finding :=
  { f with severity := severity.getD f.severity }

variable {ρ : Type u} [RuleLike ρ]

def build (rules : List ρ) (config : Config) : Analyzer ρ where
  rules := rules.map fun r ↦
    ((config.table? (RuleLike.name r)).map fun table ↦ RuleLike.configure table r).getD r
  config := config

def runRule (config : Config) (m : Manifest) (r : ρ) : List Finding :=
  if config.isEnabled (RuleLike.name r) then
    (RuleLike.findings r m).map (override (config.severity? (RuleLike.name r)))
  else []

def analyzeFile (a : Analyzer ρ) (m : Manifest) : List Finding :=
  a.rules.flatMap (runRule a.config m)

def analyze (a : Analyzer ρ) (ms : List Manifest) : Report :=
  ⟨ms.flatMap a.analyzeFile, UInt64.ofNat ms.length⟩

def ruleEvents (config : Config) (m : Manifest) (r : ρ) : List Event :=
  if config.isEnabled (RuleLike.name r) then RuleLike.events r m
  else [.ruleDisabled (RuleLike.name r)]

def fileEvents (a : Analyzer ρ) (m : Manifest) : List Event :=
  .analyzingFile m.path :: Declaration.locateEvents m.tokens ++
    a.rules.flatMap (ruleEvents a.config m)

def events (a : Analyzer ρ) (ms : List Manifest) : List Event :=
  .analysisStarted ms.length a.rules.length :: ms.flatMap a.fileEvents ++
    [.analysisFinished (a.analyze ms).findings.length ms.length]

end Analyzer

end ManifestLint
