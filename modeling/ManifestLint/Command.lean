import ManifestLint.Command.Arguments
import ManifestLint.Disk
import ManifestLint.Event
import ManifestLint.Report.Saved
import ManifestLint.Report.Text
import ManifestLint.Rule
import ManifestLint.Text.Pieces

namespace ManifestLint

namespace Command

inductive Failure where
  | config (path : String) (cause : Config.LoadError)
  | dump (path : String) (cause : Manifest.LoadError)
  | alreadyConfigured (path : String)
  | notWritable (path : String)
deriving DecidableEq, Repr

def Failure.message : Failure → String
  | .config path _ => s!"Failed to load config: {path}"
  | .dump path _ => s!"Failed to load dump: {path}"
  | .alreadyConfigured path =>
    s!"Configuration file already exists at {path}. Use --force to overwrite."
  | .notWritable path => s!"Failed to write {path}"

structure Outcome where
  status : UInt32
  output : String
  failure : Option Failure
  events : List Event
  written : Option (String × String)
deriving DecidableEq, Repr

namespace Outcome

def printed (output : String) : Outcome := ⟨0, output, none, [], none⟩

def failed (failure : Failure) (events : List Event) : Outcome :=
  ⟨1, "", some failure, events, none⟩

def misused : Outcome := ⟨2, "", none, [], none⟩

def quiet (o : Outcome) : Outcome := { o with events := o.events.filter (·.level != .debug) }

end Outcome

open Text

def ruleLine (r : Rule) : String :=
  let code := padRight 8 r.code
  let name := padRight 28 r.name
  s!"{code} {name} {r.severity.label} {r.description}"

def ruleTable : List String :=
  ["Available rules:", "",
    "Code     Name                         Severity  Description",
    String.ofList (List.replicate 96 '-')] ++
  Rule.all.map ruleLine ++
  ["", "All rules run by default. Use --rules to select a subset, e.g.:",
    "  pp-lint check --rules variable-scope,parameter-order dump.json",
    "  pp-lint check --rules PL001,PL004 dump.json"]

def listRules : Outcome := .printed (joinLines ruleTable)

def configPath : String := "./pp-lint.toml"

def startingConfig : String :=
  joinLines [
    "# pp-lint configuration",
    "",
    "# Severity at or above which `pp-lint check` exits non-zero",
    "fail_on = \"error\"",
    "",
    "[analyzer]",
    "# Maximum threads for per-file analysis (default: all cores)",
    "# parallelism = 4",
    "",
    "# Rule configurations",
    "# Each rule can be enabled/disabled and have its severity overridden",
    "",
    "[rules.right-to-left-relationship]",
    "enabled = true",
    "",
    "[rules.autoloader-layout]",
    "enabled = true",
    "# severity = \"warning\"  # Override default severity",
    "extension = \"pp\"",
    "",
    "[rules.parameter-order]",
    "enabled = true",
    "",
    "[rules.inherits-across-namespaces]",
    "enabled = true",
    "",
    "[rules.nested-classes-or-defines]",
    "enabled = true",
    "",
    "[rules.variable-scope]",
    "enabled = true",
    "# Names treated as in scope besides the built-in top-scope variables",
    "extra_variables = []"]

def nextSteps : String :=
  joinLines ["Created pp-lint.toml", "", "Next steps:", "  1. Edit pp-lint.toml to configure rules",
    "  2. Run: pp-lint check <DUMP>..."]

/-- Writes the configuration. What lies at its path is overwritten only with force, and a directory
not even then. -/
def init (disk : Disk) (force : Bool) : Outcome :=
  match disk configPath with
  | .missing => created
  | .file _ => if force then created else .failed (.alreadyConfigured configPath) []
  | .directory =>
    .failed (if force then .notWritable configPath else .alreadyConfigured configPath) []
  | .notADirectory => .failed (.notWritable configPath) []
where
  created : Outcome :=
    { Outcome.printed nextSteps with written := some (configPath, startingConfig) }

def loadConfig (disk : Disk) (origin : Config.Origin) : Except Failure Config :=
  match origin.path? with
  | none => .ok .empty
  | some path => (Config.load disk path).mapError (.config path)

def loadDumps (disk : Disk) : List String → Except Failure (List Manifest)
  | [] => .ok []
  | path :: rest =>
    match Manifest.load disk path with
    | .error cause => .error (.dump path cause)
    | .ok m => (loadDumps disk rest).map (m :: ·)

def load (disk : Disk) (origin : Config.Origin) (dumps : List String) :
    Except Failure (Config × List Manifest) :=
  match loadConfig disk origin with
  | .error failure => .error failure
  | .ok config => (loadDumps disk dumps).map (config, ·)

def ruleKeys (rules : String) : List String :=
  (splitAt ',' rules.toList).map fun cs ↦ String.ofList (trim cs)

def chosenRules : Option String → List Rule
  | some rules => Rule.select (ruleKeys rules)
  | none => Rule.all

def choiceEvents : Option String → List Event
  | some rules => Rule.selectEvents (ruleKeys rules)
  | none => []

def Format.render : Format → Report → String
  | .text, r => r.renderText
  | .json, r => r.savePretty ++ "\n"
  | .compact, r => r.renderCompact

/-- Runs the rules over dumps. The run fails if some finding reaches the threshold of the
configuration. -/
def check (disk : Disk) (origin : Config.Origin) (dumps : List String) (format : Format)
    (rules : Option String) : Outcome :=
  match load disk origin dumps with
  | .error failure => .failed failure origin.events
  | .ok (config, ms) =>
    let a := Analyzer.build (chosenRules rules) config
    let r := a.analyze ms
    { status := if r.hasAt config.threshold then 1 else 0
      output := format.render r
      failure := none
      events := origin.events ++ choiceEvents rules ++
        .dumpsLoaded ms.length a.rules.length :: a.events ms
      written := none }

end Command

structure Surroundings where
  configDirectory : Option String
  home : Option String
  disk : Disk

namespace Command

def versionText : String := "pp-lint 0.3.0\n"

def helpText : String :=
  Text.joinLines ["Usage: pp-lint [OPTIONS] <COMMAND>", "", "Commands:",
    "  check [-f text|json|compact] [--rules LIST] <DUMP>...",
    "  list-rules", "  init [--force]", "", "Options:",
    "  -v, --verbose", "  -c, --config <CONFIG>", "  -h, --help", "  -V, --version"]

def Stop.outcome : Stop → Outcome
  | .misused => .misused
  | .version => .printed versionText
  | .help => .printed helpText

def Invocation.origin (around : Surroundings) (i : Invocation) : Config.Origin :=
  .find around.disk (Config.Origin.sharedPath around.configDirectory around.home) i.config

def Invocation.perform (around : Surroundings) (i : Invocation) : Outcome :=
  match i.action with
  | .check dumps format rules => check around.disk (i.origin around) dumps format rules
  | .listRules => listRules
  | .init force => init around.disk force

def run (around : Surroundings) (args : List String) : Outcome :=
  match Invocation.ofArguments args with
  | .error stop => stop.outcome
  | .ok i => if i.verbose then i.perform around else (i.perform around).quiet

def lookedAt (configDirectory home : Option String) (args : List String) : List String :=
  match Invocation.ofArguments args with
  | .error _ => []
  | .ok i =>
    let dumps := match i.action with
      | .check dumps _ _ => dumps
      | _ => []
    configPath :: i.config.toList ++ Config.Origin.projectPaths ++
      (Config.Origin.sharedPath configDirectory home).toList ++ dumps

end Command

end ManifestLint
