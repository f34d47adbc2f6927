import ManifestLint.Json.Skip

namespace ManifestLint.Json

abbrev Reader (α : Type) := List Char → Except Problem (α × List Char)

/-- The problem of a value that is not what was expected; the text begins with it. Texts, numbers
and words have to be well-formed themselves. -/
def mismatch (expected : String) : List Char → Problem
  | 'n' :: cs => ofWord .null (restOfWord ['u', 'l', 'l'] cs)
  | 't' :: cs => ofWord (.boolean true) (restOfWord ['r', 'u', 'e'] cs)
  | 'f' :: cs => ofWord (.boolean false) (restOfWord ['a', 'l', 's', 'e'] cs)
  | '"' :: cs =>
    match text cs with
    | .ok (s, _) => .mismatch (.wrongType (.text (String.ofList s)) expected)
    | .error problem => problem
  | '-' :: cs => ofNumber (number true cs)
  | '[' :: _ => .mismatch (.wrongType .sequence expected)
  | '{' :: _ => .mismatch (.wrongType .map expected)
  | c :: cs => if c.isDigit then ofNumber (number false (c :: cs)) else .malformed
  | [] => .unexpectedEnd
where
  ofWord (found : Found) : Except Problem (List Char) → Problem
    | .ok _ => .mismatch (.wrongType found expected)
    | .error problem => problem
  ofNumber : Except Problem (Number × List Char) → Problem
    | .ok (n, _) => .mismatch (.wrongType n.found expected)
    | .error problem => problem

def readText (expected : String) : Reader String := fun cs ↦
  match skipBlank cs with
  | '"' :: cs => do
    let (s, cs) ← text cs
    return (String.ofList s, cs)
  | cs => .error (mismatch expected cs)

def expectedWord : String := "usize"

def Number.word? : Number → Except Mismatch UInt64
  | .word n => .ok n
  | .negative n => .error (.wrongValue (.integer n) expectedWord)
  | .real x => .error (.wrongType (Number.real x).found expectedWord)

def readWord : Reader UInt64 := fun cs ↦
  match skipBlank cs with
  | '-' :: cs => number true cs >>= word
  | c :: cs => if c.isDigit then number false (c :: cs) >>= word
    else .error (mismatch expectedWord (c :: cs))
  | [] => .error .unexpectedEnd
where
  word (r : Number × List Char) : Except Problem (UInt64 × List Char) :=
    match r.1.word? with
    | .ok n => .ok (n, r.2)
    | .error cause => .error (.mismatch cause)

def nextElement (first : Bool) (cs : List Char) : Except Problem (Bool × List Char) :=
  match skipBlank cs with
  | [] => .error .unexpectedEnd
  | ']' :: cs => .ok (false, ']' :: cs)
  | c :: cs =>
    if first then .ok (true, c :: cs)
    else if c = ',' then
      match skipBlank cs with
      | [] => .error .unexpectedEnd
      | ']' :: _ => .error .malformed
      | cs => .ok (true, cs)
    else .error .malformed

/-- Reads the elements of a list up to the bracket that closes it. Every element takes a
character. -/
def elements {α : Type} (item : Reader α) : Nat → Bool → Reader (List α)
  | 0, _, _ => .error .malformed
  | fuel + 1, first, cs => do
    let (more, cs) ← nextElement first cs
    if more then
      let (a, cs) ← item cs
      let (rest, cs) ← elements item fuel false cs
      return (a :: rest, cs)
    else return ([], cs.drop 1)

def readList {α : Type} (item : Reader α) : Reader (List α) := fun cs ↦
  match skipBlank cs with
  | '[' :: cs => elements item (cs.length + 1) true cs
  | cs => .error (mismatch "a sequence" cs)

structure Field (σ : Type) where
  key : String
  optional : Bool
  isSet : σ → Bool
  read : σ → Reader σ

def Field.of {σ α : Type} (key : String) (optional : Bool) (get : σ → Option α) (set : σ → α → σ)
    (read : Reader α) : Field σ where
  key := key
  optional := optional
  isSet s := (get s).isSome
  read s cs := do
    let (a, cs) ← read cs
    return (set s a, cs)

/-- The shape of a record: its name in messages, its fields in order, and how it is put together. -/
structure Shape (σ α : Type) where
  name : String
  fields : List (Field σ)
  start : σ
  finish : σ → Except Mismatch α

def required {α : Type} (key : String) : Option α → Except Mismatch α
  | some a => .ok a
  | none => .error (.missingField key)

def readKey : Reader String := fun cs ↦
  match skipBlank cs with
  | [] => .error .unexpectedEnd
  | '"' :: cs => do
    let (s, cs) ← text cs
    return (String.ofList s, cs)
  | _ => .error .malformed

def nextKey (first : Bool) (cs : List Char) : Except Problem (Option String × List Char) :=
  match skipBlank cs with
  | [] => .error .unexpectedEnd
  | '}' :: cs => .ok (none, '}' :: cs)
  | c :: cs =>
    if first then key (c :: cs)
    else if c = ',' then key cs
    else .error .malformed
where
  key (cs : List Char) : Except Problem (Option String × List Char) := do
    let (s, cs) ← readKey cs
    return (some s, cs)

/-- Reads the members of an object up to the brace that closes it. Keys that belong to no field are
passed over with their values. Every member takes a character. -/
def members {σ : Type} (fields : List (Field σ)) : Nat → Bool → σ → Reader σ
  | 0, _, _, _ => .error .malformed
  | fuel + 1, first, s, cs => do
    let (key, cs) ← nextKey first cs
    match key with
    | none => return (s, cs)
    | some key =>
      match fields.find? (·.key == key) with
      | some field =>
        if field.isSet s then .error (.mismatch (.duplicateField key))
        else
          let cs ← skipColon cs
          let (s, cs) ← field.read s cs
          members fields fuel false s cs
      | none =>
        let cs ← skipColon cs
        let cs ← skipValue cs
        members fields fuel false s cs

def positional {σ : Type} (name : String) (total : Nat) : List (Field σ) → Nat → Bool → σ → Reader σ
  | [], _, _, s, cs => .ok (s, cs)
  | field :: fields, count, first, s, cs => do
    let (more, cs) ← nextElement first cs
    if more then
      let (s, cs) ← field.read s cs
      positional name total fields (count + 1) false s cs
    else if field.optional then positional name total fields (count + 1) first s cs
    else .error (.mismatch (.wrongLength count name total))

def closeList (cs : List Char) : Except Problem (List Char) :=
  match skipBlank cs with
  | [] => .error .unexpectedEnd
  | ']' :: cs => .ok cs
  | _ => .error .malformed

def ofMismatch {α : Type} : Except Mismatch α → Except Problem α
  | .ok a => .ok a
  | .error cause => .error (.mismatch cause)

def readRecord {σ α : Type} (shape : Shape σ α) : Reader α := fun cs ↦
  match skipBlank cs with
  | '{' :: cs => do
    let (s, cs) ← members shape.fields (cs.length + 1) true shape.start cs
    let a ← ofMismatch (shape.finish s)
    return (a, cs.drop 1)
  | '[' :: cs => do
    let (s, cs) ← positional shape.name shape.fields.length shape.fields 0 true shape.start cs
    let a ← ofMismatch (shape.finish s)
    let cs ← closeList cs
    return (a, cs)
  | cs => .error (mismatch shape.name cs)

def readNull (cs : List Char) : Except Problem (List Char) :=
  match skipBlank cs with
  | 'n' :: cs => restOfWord ['u', 'l', 'l'] cs
  | cs => .error (mismatch "unit" cs)

/-- Reads a value that is one of several names: the name itself, or an object in which it is the
key of `null`. -/
def readName {α : Type} (ofName : String → Except Mismatch α) : Reader α := fun cs ↦
  match skipBlank cs with
  | [] => .error .unexpectedEnd
  | '"' :: cs => do
    let (s, cs) ← text cs
    let a ← ofMismatch (ofName (String.ofList s))
    return (a, cs)
  | '{' :: cs => do
    let (s, cs) ← readKey cs
    let a ← ofMismatch (ofName s)
    let cs ← skipColon cs
    let cs ← readNull cs
    match skipBlank cs with
    | [] => .error .unexpectedEnd
    | '}' :: cs => return (a, cs)
    | _ => .error .malformed
  | _ => .error .malformed

def readOptional {α : Type} (read : Reader α) : Reader (Option α) := fun cs ↦
  match skipBlank cs with
  | 'n' :: cs => do
    let cs ← restOfWord ['u', 'l', 'l'] cs
    return (none, cs)
  | cs => do
    let (a, cs) ← read cs
    return (some a, cs)

def parse {α : Type} (read : Reader α) (s : String) : Except Problem α := do
  let (a, cs) ← read s.toList
  if (skipBlank cs).isEmpty then return a else .error .malformed

end ManifestLint.Json
