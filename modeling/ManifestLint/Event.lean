import ManifestLint.Text.Printable
import ManifestLint.Token

namespace ManifestLint

inductive Level where
  | debug | info | warn
deriving DecidableEq, Repr

def Level.label : Level → String
  | .debug => "DEBUG"
  | .info => "INFO"
  | .warn => "WARN"

inductive Event where
  | analyzingFile (path : String)
  | bodyMissing (name : String) (line column : UInt64)
  | bodyUnclosed (name : String) (cause : Delimiter.Imbalance)
  | strayParen (line column : UInt64)
  | parametersUnclosed (cause : Delimiter.Imbalance)
  | defaultUnbalanced (line column : UInt64)
  | ruleDisabled (rule : String)
  | analysisStarted (files rules : Nat)
  | analysisFinished (findings files : Nat)
  | ruleUnknown (name : String)
  | projectConfigFound (path : String)
  | globalConfigFound (path : String)
  | globalConfigUsed (path : String)
  | dumpsLoaded (files rules : Nat)
deriving DecidableEq, Repr

namespace Event

def level : Event → Level
  | .analysisStarted .. | .analysisFinished .. | .globalConfigUsed _ | .dumpsLoaded .. => .info
  | .ruleUnknown _ => .warn
  | _ => .debug

def message : Event → String
  | .analyzingFile path => s!"Analyzing: {path}"
  | .bodyMissing name line column => s!"No body found for {name} at {line}:{column}"
  | .bodyUnclosed name cause => s!"Skipping {name}: {cause.message}"
  | .strayParen line column => s!"Stray ')' at {line}:{column} before parameter list"
  | .parametersUnclosed cause => s!"Skipping parameter list: {cause.message}"
  | .defaultUnbalanced line column =>
    s!"Unbalanced default value at {line}:{column}, skipping parameter list"
  | .ruleDisabled rule => s!"Skipping disabled rule: {rule}"
  | .analysisStarted files rules => s!"Analyzing {files} file(s) with {rules} rule(s)"
  | .analysisFinished findings files =>
    s!"Analysis complete: {findings} violations in {files} files"
  | .ruleUnknown name => s!"Unknown rule: {name}"
  | .projectConfigFound path => s!"Found project config: {path}"
  | .globalConfigFound path => s!"Found global config: {path}"
  | .globalConfigUsed path => s!"Using global config: {path}"
  | .dumpsLoaded files rules => s!"Analyzing {files} file(s) with {rules} rules"

/-- A control that could steer a terminal: escape, bell, backspace, form feed, delete, and the
controls of eight bits. -/
def steers (c : Char) : Bool :=
  c == '\x1b' || c == '\x07' || c == '\x08' || c == '\x0c' || c == '\x7f' ||
    (0x80 ≤ c.toNat && c.toNat ≤ 0x9F)

def displayed (c : Char) : List Char :=
  if steers c then
    if c.toNat < 0x10 then ['\\', 'x', '0'] ++ Text.hexDigits c.toNat
    else if c.toNat < 0x80 then ['\\', 'x'] ++ Text.hexDigits c.toNat
    else ['\\', 'u', '{'] ++ Text.hexDigits c.toNat ++ ['}']
  else [c]

def line (e : Event) : String :=
  e.level.label ++ " " ++ String.ofList (e.message.toList.flatMap displayed)

end Event

end ManifestLint
