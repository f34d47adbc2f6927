import ManifestLint.Decimal
import ManifestLint.Text.Printable

namespace ManifestLint.Json

/-- A value that was found where another was expected. Numbers that are no 64-bit integers are held
by their text. -/
inductive Found where
  | null
  | boolean (b : Bool)
  | integer (n : Int)
  | real (literal : String)
  | text (s : String)
  | sequence
  | map
deriving DecidableEq, Repr

def Found.describe : Found → String
  | .null => "null"
  | .boolean b => s!"boolean `{b}`"
  | .integer n => s!"integer `{n}`"
  | .real s => s!"floating point `{s}`"
  | .text s => s!"string {Text.shown s}"
  | .sequence => "sequence"
  | .map => "map"

inductive Mismatch where
  | wrongType (found : Found) (expected : String)
  | wrongValue (found : Found) (expected : String)
  | missingField (key : String)
  | duplicateField (key : String)
  | wrongLength (length : Nat) (record : String) (fields : Nat)
  | unknownName (name : String) (expected : String)
deriving DecidableEq, Repr

def Mismatch.message : Mismatch → String
  | .wrongType found expected => s!"invalid type: {found.describe}, expected {expected}"
  | .wrongValue found expected => s!"invalid value: {found.describe}, expected {expected}"
  | .missingField key => s!"missing field `{key}`"
  | .duplicateField key => s!"duplicate field `{key}`"
  | .wrongLength length record fields =>
    let unit := if fields = 1 then "element" else "elements"
    s!"invalid length {length}, expected {record} with {fields} {unit}"
  | .unknownName name expected => s!"unknown variant `{name}`, expected {expected}"

/-- The first problem met in a text: it ends too early, it is no JSON, or it has the wrong shape. -/
inductive Problem where
  | unexpectedEnd
  | malformed
  | mismatch (cause : Mismatch)
deriving DecidableEq, Repr

def isBlank (c : Char) : Bool := c == ' ' || c == '\n' || c == '\t' || c == '\r'

def skipBlank (cs : List Char) : List Char := cs.dropWhile isBlank

def restOfWord : List Char → List Char → Except Problem (List Char)
  | [], cs => .ok cs
  | _ :: _, [] => .error .unexpectedEnd
  | w :: word, c :: cs => if w = c then restOfWord word cs else .error .malformed

def hexValue? (c : Char) : Option Nat :=
  if c.isDigit then some (c.toNat - 48)
  else if 'a' ≤ c ∧ c ≤ 'f' then some (c.toNat - 87)
  else if 'A' ≤ c ∧ c ≤ 'F' then some (c.toNat - 55)
  else none

def hexValue4? (a b c d : Char) : Option Nat := do
  let a ← hexValue? a
  let b ← hexValue? b
  let c ← hexValue? c
  let d ← hexValue? d
  return 4096 * a + 256 * b + 16 * c + d

/-- Fewer than four digits are left for an escape: the text ends too early if it has not even four
more bytes. -/
def shortEscape (cs : List Char) : Problem :=
  if cs.foldl (fun n c ↦ n + c.utf8Size) 0 < 4 then .unexpectedEnd else .malformed

def simpleEscape? : Char → Option Char
  | '"' => some '"'
  | '\\' => some '\\'
  | '/' => some '/'
  | 'b' => some '\x08'
  | 'f' => some '\x0c'
  | 'n' => some '\n'
  | 'r' => some '\r'
  | 't' => some '\t'
  | _ => none

def isLeadingSurrogate (n : Nat) : Bool := 0xD800 ≤ n && n ≤ 0xDBFF

def isTrailingSurrogate (n : Nat) : Bool := 0xDC00 ≤ n && n ≤ 0xDFFF

def prepend (c : Char) :
    Except Problem (List Char × List Char) → Except Problem (List Char × List Char)
  | .ok (s, cs) => .ok (c :: s, cs)
  | .error problem => .error problem

/-- Reads the inside of a text up to its closing quote. Surrogates have to come in pairs, and
control characters have to be escaped. -/
def text : List Char → Except Problem (List Char × List Char)
  | [] => .error .unexpectedEnd
  | '"' :: cs => .ok ([], cs)
  | ['\\'] => .error .unexpectedEnd
  | '\\' :: 'u' :: a :: b :: c :: d :: cs =>
    match hexValue4? a b c d with
    | none => .error .malformed
    | some n =>
      if isTrailingSurrogate n then .error .malformed
      else if isLeadingSurrogate n then
        match cs with
        | '\\' :: 'u' :: a :: b :: c :: d :: cs =>
          match hexValue4? a b c d with
          | none => .error .malformed
          | some m =>
            if isTrailingSurrogate m then
              prepend (Char.ofNat (0x10000 + (n - 0xD800) * 1024 + (m - 0xDC00))) (text cs)
            else .error .malformed
        | '\\' :: 'u' :: cs => .error (shortEscape cs)
        | [] | ['\\'] => .error .unexpectedEnd
        | _ => .error .malformed
      else prepend (Char.ofNat n) (text cs)
  | '\\' :: 'u' :: cs => .error (shortEscape cs)
  | '\\' :: c :: cs =>
    match simpleEscape? c with
    | none => .error .malformed
    | some e => prepend e (text cs)
  | c :: cs =>
    if c.toNat < 0x20 then .error .malformed else prepend c (text cs)

def skipText : List Char → Except Problem (List Char)
  | [] => .error .unexpectedEnd
  | '"' :: cs => .ok cs
  | ['\\'] => .error .unexpectedEnd
  | '\\' :: 'u' :: a :: b :: c :: d :: cs =>
    if (hexValue4? a b c d).isSome then skipText cs else .error .malformed
  | '\\' :: 'u' :: cs => .error (shortEscape cs)
  | '\\' :: c :: cs => if (simpleEscape? c).isSome then skipText cs else .error .malformed
  | c :: cs => if c.toNat < 0x20 then .error .malformed else skipText cs

end ManifestLint.Json
