import ManifestLint.Toml.Scalar
import ManifestLint.Toml.Value

namespace ManifestLint.Toml

/-- Values nest less deep than this, and dotted keys have fewer parts. -/
def depthLimit : Nat := 80

def isKeyChar (c : Char) : Bool := c.isAlphanum || c == '_' || c == '-'

def keyPart : List Char → Option (String × List Char)
  | '"' :: cs => (basicText cs).map fun p ↦ (String.ofList p.1, p.2)
  | '\'' :: cs => (literalText cs).map fun p ↦ (String.ofList p.1, p.2)
  | cs =>
    let part := cs.takeWhile isKeyChar
    if part.isEmpty then none else some (String.ofList part, cs.dropWhile isKeyChar)

def keyParts : Nat → List Char → Option (List String × List Char)
  | 0, _ => none
  | fuel + 1, cs => do
    let (part, cs) ← keyPart (skipBlank cs)
    match skipBlank cs with
    | '.' :: cs => do
      let (parts, cs) ← keyParts fuel cs
      return (part :: parts, cs)
    | cs => return ([part], cs)

def key (cs : List Char) : Option ((List String × String) × List Char) := do
  let (parts, cs) ← keyParts (cs.length + 1) cs
  let last ← parts.getLast?
  if parts.length < depthLimit then return ((parts.dropLast, last), cs) else none

def scalar (cs : List Char) : Option (Value × List Char) :=
  match cs with
  | '"' :: _ | '\'' :: _ => (quotedText cs).map fun p ↦ (.string (String.ofList p.1), p.2)
  | 't' :: 'r' :: 'u' :: 'e' :: cs => some (.boolean true, cs)
  | 'f' :: 'a' :: 'l' :: 's' :: 'e' :: cs => some (.boolean false, cs)
  | _ => if isDatetime cs then (datetime cs).map fun p ↦ (.datetime p.1, p.2) else number cs

mutual

def valueIn (fuel depth : Nat) (cs : List Char) : Option (Value × List Char) :=
  match fuel with
  | 0 => none
  | fuel + 1 =>
    match cs with
    | '[' :: cs =>
      if depth + 1 < depthLimit then do
        let (items, cs) ← itemsIn fuel (depth + 1) cs
        return (.array items, cs)
      else none
    | '{' :: cs =>
      if depth + 1 < depthLimit then
        match skipBlank cs with
        | '}' :: cs => some (.table [], cs)
        | cs => do
          let (entries, cs) ← entriesIn fuel (depth + 1) [] cs
          return (.table (Item.toValues entries), cs)
      else none
    | cs => scalar cs

def itemsIn (fuel depth : Nat) (cs : List Char) : Option (List Value × List Char) :=
  match fuel with
  | 0 => none
  | fuel + 1 =>
    match skipGap (cs.length + 1) cs with
    | ']' :: cs => some ([], cs)
    | cs => do
      let (v, cs) ← valueIn fuel depth cs
      match skipGap (cs.length + 1) cs with
      | ',' :: cs => do
        let (rest, cs) ← itemsIn fuel depth cs
        return (v :: rest, cs)
      | ']' :: cs => return ([v], cs)
      | _ => none

def entriesIn (fuel depth : Nat) (entries : Entries) (cs : List Char) :
    Option (Entries × List Char) :=
  match fuel with
  | 0 => none
  | fuel + 1 => do
    let ((path, last), cs) ← key cs
    let cs ← expect '=' cs
    let (v, cs) ← valueIn fuel depth (skipBlank cs)
    let entries ← entries.assign last v path
    match skipBlank cs with
    | ',' :: cs => entriesIn fuel depth entries cs
    | '}' :: cs => return (entries, cs)
    | _ => none

end

def value (cs : List Char) : Option (Value × List Char) := valueIn (2 * cs.length + 2) 0 cs

/-- A document that is being read: all its entries, and the path of the table whose lines come. -/
structure Draft where
  root : Entries
  path : List String

def assignment (d : Draft) (cs : List Char) : Option (Draft × List Char) := do
  let ((path, last), cs) ← key cs
  let cs ← expect '=' cs
  let (v, cs) ← value (skipBlank cs)
  let cs ← lineEnd? cs
  let root ← d.root.changeAt (Entries.assign last v path) d.path
  return (⟨root, d.path⟩, cs)

def tableHeader (d : Draft) (cs : List Char) : Option (Draft × List Char) := do
  let ((path, last), cs) ← key cs
  let cs ← expect ']' cs
  let cs ← lineEnd? cs
  let root ← d.root.changeAt (Entries.openTable last) path
  return (⟨root, path ++ [last]⟩, cs)

def elementHeader (d : Draft) (cs : List Char) : Option (Draft × List Char) := do
  let ((path, last), cs) ← key cs
  let cs ← expect ']' cs
  let cs ← expect ']' cs
  let cs ← lineEnd? cs
  let root ← d.root.changeAt (Entries.openElement last) path
  return (⟨root, path ++ [last]⟩, cs)

def line (d : Draft) (cs : List Char) : Option (Draft × List Char) :=
  match skipBlank cs with
  | '[' :: '[' :: cs => elementHeader d cs
  | '[' :: cs => tableHeader d cs
  | cs =>
    match lineEnd? cs with
    | some cs => some (d, cs)
    | none => assignment d cs

def lines : Nat → Draft → List Char → Option Draft
  | _, d, [] => some d
  | 0, _, _ :: _ => none
  | fuel + 1, d, cs => do
    let (d, cs) ← line d cs
    lines fuel d cs

def dropMark : List Char → List Char
  | '\uFEFF' :: cs => cs
  | cs => cs

def parse (s : String) : Option (List (String × Value)) := do
  let cs := dropMark s.toList
  let d ← lines cs.length ⟨[], []⟩ cs
  return Item.toValues d.root

end ManifestLint.Toml
