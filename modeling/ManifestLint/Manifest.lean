import ManifestLint.Json.Read
import ManifestLint.Json.Write
import ManifestLint.Token

namespace ManifestLint

structure Manifest where
  path : String
  tokens : List Token
deriving DecidableEq, Repr, Inhabited

def Manifest.hasPath (m : Manifest) : Bool := !m.path.isEmpty

open Json

namespace Token

structure Draft where
  kind : Option Kind := none
  text : Option String := none
  line : Option UInt64 := none
  column : Option UInt64 := none

def readKind : Reader Kind := readName fun name ↦ .ok (Kind.ofLabel name)

def shape : Shape Draft Token where
  name := "struct Token"
  fields := [
    .of "kind" false (·.kind) (fun d a ↦ { d with kind := some a }) readKind,
    .of "text" false (·.text) (fun d a ↦ { d with text := some a }) (readText "a string"),
    .of "line" false (·.line) (fun d a ↦ { d with line := some a }) readWord,
    .of "column" false (·.column) (fun d a ↦ { d with column := some a }) readWord]
  start := {}
  finish d := do
    let kind ← required "kind" d.kind
    let text ← required "text" d.text
    let line ← required "line" d.line
    let column ← required "column" d.column
    return ⟨kind, text, line, column⟩

def json (t : Token) : Value :=
  .object [("kind", .text t.kind.label), ("text", .text t.text), ("line", .word t.line),
    ("column", .word t.column)]

end Token

namespace Manifest

structure Draft where
  path : Option String := none
  tokens : Option (List Token) := none

/-- A dump without a path belongs to a manifest whose path is unknown. -/
def shape : Shape Draft Manifest where
  name := "struct SourceFile"
  fields := [
    .of "path" true (·.path) (fun d a ↦ { d with path := some a }) (readText "path string"),
    .of "tokens" false (·.tokens) (fun d a ↦ { d with tokens := some a })
      (readList (readRecord Token.shape))]
  start := {}
  finish d := do
    let tokens ← required "tokens" d.tokens
    return ⟨d.path.getD "", tokens⟩

def ofDump (s : String) : Except Problem Manifest := parse (readRecord shape) s

def json (m : Manifest) : Value :=
  .object [("path", .text m.path), ("tokens", .list (m.tokens.map Token.json))]

def dump (m : Manifest) : String := String.ofList (write m.json)

end Manifest

end ManifestLint
