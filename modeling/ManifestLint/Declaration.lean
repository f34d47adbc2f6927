import ManifestLint.Event
import ManifestLint.Guarded

namespace ManifestLint

open Token

inductive Declaration.Kind where
  | classDecl | definedType
deriving DecidableEq, Repr

/-- A declaration, given by the indices of its keyword, its name and the closing brace of its
body. -/
structure Declaration where
  kind : Declaration.Kind
  start : Nat
  name : Nat
  last : Nat
deriving DecidableEq, Repr

namespace Declaration

def Kind.ofKeyword? : Token.Kind → Option Kind
  | .classWord => some .classDecl
  | .defineWord => some .definedType
  | _ => none

def contains (d e : Declaration) : Bool := d.start < e.start && e.start ≤ d.last

def nameText (d : Declaration) (tokens : List Token) : String :=
  (tokens[d.name]?.map (·.text)).getD ""

/-- The index of the first brace outside parentheses, in a stream whose first token has index `i`
and stands in `depth` parentheses. There is none behind a closing parenthesis too many. -/
def bodyFrom (depth i : Nat) : List Token → Option Nat
  | [] => none
  | t :: rest =>
    if t.kind = .leftParen then bodyFrom (depth + 1) (i + 1) rest
    else if t.kind = .rightParen then
      match depth with
      | 0 => none
      | depth + 1 => bodyFrom depth (i + 1) rest
    else if t.kind = .leftBrace ∧ depth = 0 then some i
    else bodyFrom depth (i + 1) rest

def bodyOpen (tokens : List Token) (name : Nat) : Option Nat :=
  bodyFrom 0 (name + 1) (tokens.drop (name + 1))

/-- The declaration that the keyword at index `i` begins, or what it lacks. Nothing at all if the
token is no keyword or no name follows it, as in `class { 'title': }`. -/
def examine (tokens : List Token) (keyword : Token) (i : Nat) :
    Option (Except Event Declaration) := do
  let kind ← Kind.ofKeyword? keyword.kind
  let n ← Stream.nextSignificant tokens i
  let name ← tokens[n]?
  if name.kind = .name then
    match bodyOpen tokens n with
    | none => some (.error (.bodyMissing name.text keyword.line keyword.column))
    | some body =>
      match Delimiter.brace.matchingClose tokens body with
      | .ok last => some (.ok ⟨kind, i, n, last⟩)
      | .error cause => some (.error (.bodyUnclosed name.text cause))
  else none

def examineAll (tokens : List Token) : List (Except Event Declaration) :=
  tokens.zipIdx.filterMap fun p ↦ examine tokens p.1 p.2

def locate (tokens : List Token) : List Declaration :=
  (examineAll tokens).filterMap Except.toOption

def locateEvents (tokens : List Token) : List Event :=
  (examineAll tokens).filterMap fun
    | .ok _ => none
    | .error event => some event

def isClass (d : Declaration) : Bool := d.kind == .classDecl

def tokens (d : Declaration) (stream : List Token) (offset : Nat) : List Token :=
  Stream.significant stream (d.start + offset) d.last

/-- Looks for the parameter list in a stretch of the stream that begins at index `i`. The list has
to be closed at index `last` or before. -/
def parametersFrom (stream : List Token) (last i : Nat) :
    List Token → Except Event (Option (Nat × Nat))
  | [] => .ok none
  | t :: rest =>
    if t.kind = .leftBrace then .ok none
    else if t.kind = .rightParen then .error (.strayParen t.line t.column)
    else if t.kind = .leftParen then
      match Delimiter.paren.matchingClose stream i with
      | .ok close => .ok (if close ≤ last then some (i, close) else none)
      | .error cause => .error (.parametersUnclosed cause)
    else parametersFrom stream last (i + 1) rest

def searchParameters (stream : List Token) (first last : Nat) :
    Except Event (Option (Nat × Nat)) :=
  parametersFrom stream last first (Stream.slice stream first last)

def found : Except Event (Option (Nat × Nat)) → Option (Nat × Nat)
  | .ok range => range
  | .error _ => none

def failure : Except Event (Option (Nat × Nat)) → List Event
  | .ok _ => []
  | .error event => [event]

def parameters (d : Declaration) (stream : List Token) : Option (Nat × Nat) :=
  found (searchParameters stream (d.name + 1) d.last)

def parameterEvents (d : Declaration) (stream : List Token) : List Event :=
  failure (searchParameters stream (d.name + 1) d.last)

structure Range where
  start : UInt64
  name : UInt64
  last : UInt64
deriving DecidableEq, Repr

def range (d : Declaration) : Range :=
  ⟨UInt64.ofNat d.start, UInt64.ofNat d.name, UInt64.ofNat d.last⟩

namespace Range

/-- The search for the parameter list of a range. The index behind the name has to be a word. -/
def searchParameters (r : Range) (stream : List Token) :
    Guarded (Except Event (Option (Nat × Nat))) := do
  let first ← Guarded.add r.name.toNat 1
  return Declaration.searchParameters stream first r.last.toNat

def tokens (r : Range) (stream : List Token) (offset : UInt64) : Guarded (List Token) := do
  let first ← Guarded.add r.start.toNat offset.toNat
  return Stream.significant stream first r.last.toNat

end Range

end Declaration

end ManifestLint
