import ManifestLint.Report
import ManifestLint.Toml.Document
import ManifestLint.Toml.Value

namespace ManifestLint

structure RuleTable where
  enabled : Option Bool
  severity : Option Severity
  options : List (String × Toml.Value)
deriving Repr, Inhabited

namespace RuleTable

def hasOption (table : RuleTable) (key : String) : Bool := (table.options.lookup key).isSome

def textOption (table : RuleTable) (key default : String) : String :=
  ((table.options.lookup key).bind Toml.Value.asString?).getD default

def textsOption (table : RuleTable) (key : String) : List String :=
  (((table.options.lookup key).bind Toml.Value.asArray?).getD []).filterMap Toml.Value.asString?

end RuleTable

structure Config where
  failOn : Option Severity
  parallelism : Option Nat
  rules : List (String × RuleTable)
deriving Repr, Inhabited

namespace Config

def empty : Config := ⟨none, none, []⟩

def table? (c : Config) (rule : String) : Option RuleTable := c.rules.lookup rule

def isEnabled (c : Config) (rule : String) : Bool :=
  ((c.table? rule).bind (·.enabled)).getD true

def severity? (c : Config) (rule : String) : Option Severity :=
  (c.table? rule).bind (·.severity)

def threshold (c : Config) : Severity := c.failOn.getD .error

end Config

open Toml

def optional {α : Type} (read : Value → Option α) : Option Value → Option (Option α)
  | none => some none
  | some v => (read v).map some

def isEmptyValue : Value → Bool
  | .table [] => true
  | .array [] => true
  | _ => false

/-- A severity: its name, or a table in which the name is the only key and stands for nothing. -/
def Severity.ofToml? : Value → Option Severity
  | .string name => ofLabel? name
  | .table [(name, v)] => if isEmptyValue v then ofLabel? name else none
  | _ => none

def readBoolean? : Value → Option Bool
  | .boolean b => some b
  | _ => none

def readCount? : Value → Option Nat
  | .integer n => if 0 ≤ n then some n.toNat else none
  | _ => none

def dateKey : String := "$__toml_private_datetime"

/-- The date that a table stands for whose first key is the date key: the table must hold the text
of a date and nothing else. -/
def dateOfTable? : Value → List (String × Value) → Option Value
  | .string s, [] => (Datetime.ofText? s).map .datetime
  | _, _ => none

mutual

def readOption? : Value → Option Value
  | .array items => (readItems? items).map .array
  | .table [] => some (.table [])
  | .table ((key, v) :: rest) =>
    if key = dateKey then dateOfTable? v rest
    else do
      let v ← readOption? v
      let rest ← readOptions? rest
      return .table ((key, v) :: rest)
  | v => some v

def readItems? : List Value → Option (List Value)
  | [] => some []
  | v :: rest => do
    let v ← readOption? v
    let rest ← readItems? rest
    return v :: rest

def readOptions? : List (String × Value) → Option (List (String × Value))
  | [] => some []
  | (key, v) :: rest => do
    let v ← readOption? v
    let rest ← readOptions? rest
    return (key, v) :: rest

end

namespace RuleTable

/-- Every key but the two that all rules have is an option. A date is a table that holds its
text. -/
def ofToml? : Value → Option RuleTable
  | .table entries => do
    let enabled ← optional readBoolean? (entries.lookup "enabled")
    let severity ← optional Severity.ofToml? (entries.lookup "severity")
    let options ← readOptions? (entries.filter fun e ↦ e.1 != "enabled" && e.1 != "severity")
    return ⟨enabled, severity, options⟩
  | .datetime d => some ⟨none, none, [(dateKey, .string d.text)]⟩
  | _ => none

end RuleTable

namespace Config

def readAnalyzer? : Value → Option (Option Nat)
  | .table entries => optional readCount? (entries.lookup "parallelism")
  | .array items => optional readCount? items.head?
  | .datetime _ => some none
  | _ => none

def readRules? : Value → Option (List (String × RuleTable))
  | .table entries => entries.mapM fun e ↦ (RuleTable.ofToml? e.2).map (e.1, ·)
  | _ => none

def ofToml? (entries : List (String × Value)) : Option Config := do
  let failOn ← optional Severity.ofToml? (entries.lookup "fail_on")
  let parallelism ← optional readAnalyzer? (entries.lookup "analyzer")
  let rules ← optional readRules? (entries.lookup "rules")
  return ⟨failOn, parallelism.getD none, rules.getD []⟩

def parse (s : String) : Option Config := do
  let entries ← Toml.parse s
  ofToml? entries

end Config

end ManifestLint
