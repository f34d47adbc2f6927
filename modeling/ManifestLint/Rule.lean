import ManifestLint.Analyzer
import ManifestLint.Rule.Checks

namespace ManifestLint

inductive Rule.Check where
  | rightToLeft
  | autoloaderLayout (extension : String)
  | parameterOrder
  | inheritsAcrossNamespaces
  | nestedDeclarations
  | variableScope (extraVariables : List String)
deriving DecidableEq, Repr, Inhabited

structure Rule where
  check : Rule.Check
  severity : Severity
deriving DecidableEq, Repr, Inhabited

namespace Rule

def Check.name : Check → String
  | .rightToLeft => "right-to-left-relationship"
  | .autoloaderLayout _ => "autoloader-layout"
  | .parameterOrder => "parameter-order"
  | .inheritsAcrossNamespaces => "inherits-across-namespaces"
  | .nestedDeclarations => "nested-classes-or-defines"
  | .variableScope _ => "variable-scope"

def Check.code : Check → String
  | .rightToLeft => "PL001"
  | .autoloaderLayout _ => "PL002"
  | .parameterOrder => "PL003"
  | .inheritsAcrossNamespaces => "PL004"
  | .nestedDeclarations => "PL005"
  | .variableScope _ => "PL006"

def Check.description : Check → String
  | .rightToLeft => "Forbids right-to-left (<-) relationship chaining"
  | .autoloaderLayout _ => "Requires classes and defines to be in their autoload module path"
  | .parameterOrder => "Requires required parameters to be listed before optional ones"
  | .inheritsAcrossNamespaces => "Forbids classes inheriting across module namespaces"
  | .nestedDeclarations => "Forbids classes and defines defined inside a class"
  | .variableScope _ =>
    "Requires top-scope variables to be referenced with an explicit namespace"

/-- The check with the options that its table gives. An option of the wrong type counts as its
default. -/
def Check.configure (table : RuleTable) : Check → Check
  | .autoloaderLayout extension =>
    if table.hasOption "extension" then
      .autoloaderLayout (table.textOption "extension" AutoloaderLayout.defaultExtension)
    else .autoloaderLayout extension
  | .variableScope extra =>
    if table.hasOption "extra_variables" then
      .variableScope (table.textsOption "extra_variables")
    else .variableScope extra
  | check => check

def Check.hits (m : Manifest) : Check → List Hit
  | .rightToLeft => RightToLeft.hits m.tokens
  | .autoloaderLayout extension => AutoloaderLayout.hits extension m.path m.tokens
  | .parameterOrder => ParameterOrder.hits m.tokens
  | .inheritsAcrossNamespaces => InheritsAcrossNamespaces.hits m.tokens
  | .nestedDeclarations => NestedDeclarations.hits m.tokens
  | .variableScope extra => VariableScope.hits extra m.tokens

def Check.events (m : Manifest) : Check → List Event
  | .parameterOrder => ParameterOrder.events m.tokens
  | .variableScope _ => VariableScope.events m.tokens
  | _ => []

def name (r : Rule) : String := r.check.name

def code (r : Rule) : String := r.check.code

def description (r : Rule) : String := r.check.description

def configure (table : RuleTable) (r : Rule) : Rule := { r with check := r.check.configure table }

def finding (r : Rule) (path : String) (h : Hit) : Finding where
  code := r.code
  rule := r.name
  severity := r.severity
  location := .ofToken path h.token
  message := h.message
  suggestion := h.suggestion

def findings (r : Rule) (m : Manifest) : List Finding := (r.check.hits m).map (r.finding m.path)

def events (r : Rule) (m : Manifest) : List Event := r.check.events m

instance : RuleLike Rule := ⟨name, configure, findings, events⟩

theorem runRule_eq (config : Config) (m : Manifest) (r : Rule) :
    Analyzer.runRule config m r =
      if config.isEnabled r.name then
        ((r.check.hits m).map (r.finding m.path)).map (Analyzer.override (config.severity? r.name))
      else [] := rfl

theorem ruleEvents_eq (config : Config) (m : Manifest) (r : Rule) :
    Analyzer.ruleEvents config m r =
      if config.isEnabled r.name then r.check.events m else [.ruleDisabled r.name] := rfl

def Check.toRule (check : Check) : Rule where
  check := check
  severity := match check with
    | .autoloaderLayout _ => .error
    | _ => .warning

def withExtension (extension : String) (r : Rule) : Rule :=
  match r.check with
  | .autoloaderLayout _ => { r with check := .autoloaderLayout extension }
  | _ => r

def allowing (name : String) (r : Rule) : Rule :=
  match r.check with
  | .variableScope extra => { r with check := .variableScope (extra ++ [name]) }
  | _ => r

def all : List Rule :=
  [Check.rightToLeft, .autoloaderLayout AutoloaderLayout.defaultExtension, .parameterOrder,
    .inheritsAcrossNamespaces, .nestedDeclarations, .variableScope []].map Check.toRule

def find? (key : String) : Option Rule := all.find? fun r ↦ r.name == key || r.code == key

def select (keys : List String) : List Rule := keys.filterMap find?

def selectEvents (keys : List String) : List Event :=
  (keys.filter fun key ↦ (find? key).isNone).map .ruleUnknown

end Rule

def Manifest.lint (m : Manifest) : List Finding := (Analyzer.build Rule.all .empty).analyzeFile m

end ManifestLint
