import ManifestLint.Disk
import ManifestLint.Report
import ManifestLint.Text.Pieces

namespace ManifestLint.Report

open Text

def red : String := "\x1b[31m"

def yellow : String := "\x1b[33m"

def green : String := "\x1b[32m"

def reset : String := "\x1b[0m"

def color : Severity → String
  | .error => red
  | .warning => yellow

def findingLines (f : Finding) : List String :=
  let line := padLeft 4 (toString f.location.line)
  let column := padRight 3 (toString f.location.column)
  let severity := color f.severity ++ f.severity.label ++ reset
  s!"  {line}:{column} {severity} {f.message} [{f.code} {f.rule}]" ::
    f.suggestion.toList.map fun s ↦ s!"           = help: {s}"

def header (path : String) : String := if path.isEmpty then "<unknown manifest>" else path

/-- The lines of findings. A new header stands where the path differs from the one before. -/
def findingsLines (current : Option String) : List Finding → List String
  | [] => []
  | f :: rest =>
    let path := f.location.file
    let head := if current.any (Path.same · path) then [] else [header path]
    head ++ findingLines f ++ findingsLines (some path) rest

def summary (r : Report) : String :=
  let errors := r.count .error
  let warnings := r.count .warning
  let hue := if 0 < errors then red else if 0 < warnings then yellow else green
  s!"{hue}Found {errors} error(s), {warnings} warning(s) in {r.filesChecked} file(s){reset}"

def renderText (r : Report) : String := joinLines (findingsLines none r.findings ++ [r.summary])

def renderCompact (r : Report) : String := joinLines (r.findings.map Finding.display)

end ManifestLint.Report
