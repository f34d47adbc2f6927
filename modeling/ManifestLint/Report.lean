import ManifestLint.Guarded
import ManifestLint.Token

namespace ManifestLint

inductive Severity where
  | warning | error
deriving DecidableEq, Repr, Inhabited

namespace Severity

def label : Severity → String
  | .warning => "warning"
  | .error => "error"

def ofLabel? (s : String) : Option Severity :=
  if s = "warning" then some .warning else if s = "error" then some .error else none

/-- The severity of this name in capital or small letters; else the name in small letters. -/
def parse (s : String) : Except String Severity :=
  let lower := String.ofList (s.toList.map Char.toLower)
  match ofLabel? lower with
  | some severity => .ok severity
  | none => .error lower

def unknownMessage (name : String) : String := s!"unknown severity '{name}'"

def atLeast : Severity → Severity → Bool
  | .error, _ => true
  | .warning, .warning => true
  | .warning, .error => false

@[simp]
theorem ofLabel?_label (s : Severity) : ofLabel? s.label = some s := by
  cases s <;> simp [label, ofLabel?]

end Severity

/-- A place in a manifest, whose path may be unknown and is then empty. -/
structure Location where
  file : String
  line : UInt64
  column : UInt64
deriving DecidableEq, Repr, Inhabited

def Location.ofToken (file : String) (t : Token) : Location := ⟨file, t.line, t.column⟩

structure Finding where
  code : String
  rule : String
  severity : Severity
  location : Location
  message : String
  suggestion : Option String
deriving DecidableEq, Repr, Inhabited

def Finding.display (f : Finding) : String :=
  s!"{f.location.file}:{f.location.line}:{f.location.column}: " ++
    s!"{f.severity.label} [{f.code}] {f.message}"

structure Report where
  findings : List Finding
  filesChecked : UInt64
deriving DecidableEq, Repr, Inhabited

namespace Report

def empty : Report := ⟨[], 0⟩

def addFile (r : Report) (findings : List Finding) : Guarded Report := do
  let files ← Guarded.add r.filesChecked.toNat 1
  return ⟨r.findings ++ findings, UInt64.ofNat files⟩

def push (r : Report) (f : Finding) : Report := { r with findings := r.findings ++ [f] }

def hasAt (r : Report) (threshold : Severity) : Bool :=
  r.findings.any fun f ↦ f.severity.atLeast threshold

def byRule (r : Report) (rule : String) : List Finding := r.findings.filter (·.rule == rule)

def count (r : Report) (severity : Severity) : Nat := r.findings.countP (·.severity == severity)

end Report

end ManifestLint
