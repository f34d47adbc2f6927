import ManifestLint.Json.Read
import ManifestLint.Json.Write
import ManifestLint.Report

namespace ManifestLint

open Json

namespace Severity

def readSeverity : Reader Severity := readName fun name ↦
  match ofLabel? name with
  | some severity => .ok severity
  | none => .error (.unknownName name "`warning` or `error`")

end Severity

namespace Location

structure Draft where
  file : Option String := none
  line : Option UInt64 := none
  column : Option UInt64 := none

def shape : Shape Draft Location where
  name := "struct Location"
  fields := [
    .of "file" false (·.file) (fun d a ↦ { d with file := some a }) (readText "path string"),
    .of "line" false (·.line) (fun d a ↦ { d with line := some a }) readWord,
    .of "column" false (·.column) (fun d a ↦ { d with column := some a }) readWord]
  start := {}
  finish d := do
    let file ← required "file" d.file
    let line ← required "line" d.line
    let column ← required "column" d.column
    return ⟨file, line, column⟩

def json (l : Location) : Value :=
  .object [("file", .text l.file), ("line", .word l.line), ("column", .word l.column)]

end Location

namespace Finding

def suggestionShape : Shape (Option String) String where
  name := "struct Suggestion"
  fields := [.of "message" false id (fun _ a ↦ some a) (readText "a string")]
  start := none
  finish := required "message"

structure Draft where
  code : Option String := none
  rule : Option String := none
  severity : Option Severity := none
  location : Option Location := none
  message : Option String := none
  suggestion : Option (Option String) := none

def shape : Shape Draft Finding where
  name := "struct Violation"
  fields := [
    .of "code" false (·.code) (fun d a ↦ { d with code := some a }) (readText "a string"),
    .of "rule" false (·.rule) (fun d a ↦ { d with rule := some a }) (readText "a string"),
    .of "severity" false (·.severity) (fun d a ↦ { d with severity := some a })
      Severity.readSeverity,
    .of "location" false (·.location) (fun d a ↦ { d with location := some a })
      (readRecord Location.shape),
    .of "message" false (·.message) (fun d a ↦ { d with message := some a }) (readText "a string"),
    .of "suggestion" true (·.suggestion) (fun d a ↦ { d with suggestion := some a })
      (readOptional (readRecord suggestionShape))]
  start := {}
  finish d := do
    let code ← required "code" d.code
    let rule ← required "rule" d.rule
    let severity ← required "severity" d.severity
    let location ← required "location" d.location
    let message ← required "message" d.message
    return ⟨code, rule, severity, location, message, d.suggestion.getD none⟩

def suggestionJson (message : String) : String × Value :=
  ("suggestion", .object [("message", .text message)])

/-- A finding without suggestion has no member for it. -/
def json (f : Finding) : Value :=
  .object ([("code", .text f.code), ("rule", .text f.rule), ("severity", .text f.severity.label),
    ("location", f.location.json), ("message", .text f.message)] ++
    f.suggestion.toList.map suggestionJson)

end Finding

namespace Report

structure Draft where
  findings : Option (List Finding) := none
  filesChecked : Option UInt64 := none

def shape : Shape Draft Report where
  name := "struct LintResult"
  fields := [
    .of "violations" false (·.findings) (fun d a ↦ { d with findings := some a })
      (readList (readRecord Finding.shape)),
    .of "files_checked" false (·.filesChecked) (fun d a ↦ { d with filesChecked := some a })
      readWord]
  start := {}
  finish d := do
    let findings ← required "violations" d.findings
    let filesChecked ← required "files_checked" d.filesChecked
    return ⟨findings, filesChecked⟩

def ofSaved (s : String) : Except Problem Report := parse (readRecord shape) s

def json (r : Report) : Value :=
  .object [("violations", .list (r.findings.map Finding.json)),
    ("files_checked", .word r.filesChecked)]

def save (r : Report) : String := String.ofList (write r.json)

def savePretty (r : Report) : String := String.ofList (writePretty 0 r.json)

end Report

end ManifestLint
