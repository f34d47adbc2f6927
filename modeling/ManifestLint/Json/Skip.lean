import ManifestLint.Json.Scan

namespace ManifestLint.Json

def maxWord : Nat := Nat.pow 2 64 - 1

inductive Number where
  | word (n : UInt64)
  | negative (n : Int)
  | real (x : Float)

def Number.found : Number → Found
  | .word n => .integer n.toNat
  | .negative n => .integer n
  | .real x => .real (Decimal.floatText x)

/-- Reads digits onto a significand as long as it stays a word. Returns the significand, the number
of digits read and the digits left over. -/
def significandFrom (start : Nat) : List Char → Nat × Nat × List Char
  | [] => (start, 0, [])
  | d :: ds =>
    let n := 10 * start + Decimal.digitValue d
    if maxWord < n then (start, 0, d :: ds)
    else
      let (n, count, rest) := significandFrom n ds
      (n, count + 1, rest)

def powerOfTen (k : Nat) : Float := Float.ofScientific 1 false k

/-- Divides by a power of ten that may be larger than any double. -/
def scaleDown (x : Float) (k : Nat) : Float :=
  if k ≤ 308 then x / powerOfTen k
  else if x == 0 then x
  else scaleDown (x / powerOfTen 308) (k - 308)
termination_by k

def scale? (significand : Nat) (exponent : Int) : Option Float :=
  let x := (UInt64.ofNat significand).toFloat
  if exponent < 0 then some (scaleDown x exponent.natAbs)
  else if exponent ≤ 308 then
    let y := x * powerOfTen exponent.natAbs
    if y.isInf then none else some y
  else if x == 0 then some x
  else none

def signed (negative : Bool) (x : Float) : Float := if negative then -x else x

def real (negative : Bool) (significand : Nat) (exponent : Int) (cs : List Char) :
    Except Problem (Number × List Char) :=
  match scale? significand exponent with
  | some x => .ok (.real (signed negative x), cs)
  | none => .error .malformed

def maxExponent : Nat := Nat.pow 2 31 - 1

def exponentPart (negative : Bool) (significand : Nat) (scaled : Int) (cs : List Char) :
    Except Problem (Number × List Char) :=
  let (down, cs) := match cs with
    | '+' :: cs => (false, cs)
    | '-' :: cs => (true, cs)
    | cs => (false, cs)
  let ds := cs.takeWhile Char.isDigit
  let rest := cs.dropWhile Char.isDigit
  if ds.isEmpty then .error (if cs.isEmpty then .unexpectedEnd else .malformed)
  else
    let e := Decimal.value ds
    if maxExponent < e then
      if significand ≠ 0 ∧ !down then .error .malformed
      else .ok (.real (signed negative 0), rest)
    else real negative significand (if down then scaled - e else scaled + e) rest

def isExponentMark (c : Char) : Bool := c == 'e' || c == 'E'

def afterDigits (negative : Bool) (significand : Nat) (scaled : Int) :
    List Char → Except Problem (Number × List Char)
  | [] => real negative significand scaled []
  | c :: cs =>
    if isExponentMark c then exponentPart negative significand scaled cs
    else real negative significand scaled (c :: cs)

/-- Reads the digits after the point. Digits that do not fit into the significand are dropped. -/
def fractionPart (negative : Bool) (significand : Nat) (scaled : Int) (cs : List Char) :
    Except Problem (Number × List Char) :=
  let ds := cs.takeWhile Char.isDigit
  let rest := cs.dropWhile Char.isDigit
  if ds.isEmpty then .error (if rest.isEmpty then .unexpectedEnd else .malformed)
  else
    let (n, count, _) := significandFrom significand ds
    afterDigits negative n (scaled - count) rest

def integer (negative : Bool) (significand : Nat) : Number :=
  if negative then
    if significand = 0 ∨ Nat.pow 2 63 < significand then
      .real (-(UInt64.ofNat significand).toFloat)
    else .negative (-significand)
  else .word (UInt64.ofNat significand)

def afterInteger (negative : Bool) (significand : Nat) (dropped : Nat) (cs : List Char) :
    Except Problem (Number × List Char) :=
  match cs with
  | '.' :: cs => fractionPart negative significand dropped cs
  | c :: cs =>
    if isExponentMark c then exponentPart negative significand dropped cs
    else whole (c :: cs)
  | [] => whole []
where
  whole (cs : List Char) : Except Problem (Number × List Char) :=
    if dropped = 0 then .ok (integer negative significand, cs)
    else real negative significand dropped cs

def number (negative : Bool) : List Char → Except Problem (Number × List Char)
  | [] => .error .unexpectedEnd
  | '0' :: cs =>
    if cs.head?.any Char.isDigit then .error .malformed else afterInteger negative 0 0 cs
  | c :: cs =>
    if c.isDigit then
      let ds := (c :: cs).takeWhile Char.isDigit
      let (n, _, rest) := significandFrom 0 ds
      afterInteger negative n rest.length ((c :: cs).dropWhile Char.isDigit)
    else .error .malformed

def skipDigits (cs : List Char) : Except Problem (List Char) :=
  if cs.head?.any Char.isDigit then .ok (cs.dropWhile Char.isDigit) else .error .malformed

def skipExponent : List Char → Except Problem (List Char)
  | [] => .ok []
  | c :: cs =>
    if isExponentMark c then
      match cs with
      | '+' :: cs => skipDigits cs
      | '-' :: cs => skipDigits cs
      | cs => skipDigits cs
    else .ok (c :: cs)

def skipNumber (cs : List Char) : Except Problem (List Char) := do
  let cs ← match cs with
    | '0' :: cs => if cs.head?.any Char.isDigit then .error .malformed else .ok cs
    | cs => skipDigits cs
  match cs with
  | '.' :: cs => do
    let cs ← skipDigits cs
    skipExponent cs
  | cs => skipExponent cs

inductive Frame where
  | list | object
deriving DecidableEq, Repr

def Frame.close : Frame → Char
  | .list => ']'
  | .object => '}'

inductive Phase where
  | value | opened | done
deriving DecidableEq, Repr

def skipScalar : List Char → Except Problem (List Char)
  | [] => .error .unexpectedEnd
  | 'n' :: cs => restOfWord ['u', 'l', 'l'] cs
  | 't' :: cs => restOfWord ['r', 'u', 'e'] cs
  | 'f' :: cs => restOfWord ['a', 'l', 's', 'e'] cs
  | '"' :: cs => skipText cs
  | '-' :: cs => skipNumber cs
  | c :: cs => if c.isDigit then skipNumber (c :: cs) else .error .malformed

def skipColon (cs : List Char) : Except Problem (List Char) :=
  match skipBlank cs with
  | [] => .error .unexpectedEnd
  | ':' :: cs => .ok cs
  | _ => .error .malformed

def skipKey (frame : Frame) (cs : List Char) : Except Problem (List Char) :=
  match frame with
  | .list => .ok cs
  | .object =>
    match skipBlank cs with
    | [] => .error .unexpectedEnd
    | '"' :: cs => do
      let cs ← skipText cs
      skipColon cs
    | _ => .error .malformed

/-- Passes over the rest of a value inside the given frames. Every two steps take a character. -/
def skipFrom : Nat → Phase → List Frame → List Char → Except Problem (List Char)
  | 0, _, _, _ => .error .malformed
  | fuel + 1, .value, frames, cs =>
    match skipBlank cs with
    | [] => .error .unexpectedEnd
    | '[' :: cs => skipFrom fuel .opened (.list :: frames) cs
    | '{' :: cs => skipFrom fuel .opened (.object :: frames) cs
    | cs => do
      let cs ← skipScalar cs
      skipFrom fuel .done frames cs
  | _ + 1, .opened, [], cs => .ok cs
  | fuel + 1, .opened, frame :: frames, cs =>
    match skipBlank cs with
    | [] => .error .unexpectedEnd
    | c :: cs =>
      if c = frame.close then skipFrom fuel .done frames cs
      else do
        let cs ← skipKey frame (c :: cs)
        skipFrom fuel .value (frame :: frames) cs
  | _ + 1, .done, [], cs => .ok cs
  | fuel + 1, .done, frame :: frames, cs =>
    match skipBlank cs with
    | [] => .error .unexpectedEnd
    | c :: cs =>
      if c = ',' then do
        let cs ← skipKey frame cs
        skipFrom fuel .value (frame :: frames) cs
      else if c = frame.close then skipFrom fuel .done frames cs
      else .error .malformed

def skipValue (cs : List Char) : Except Problem (List Char) :=
  skipFrom (2 * cs.length + 2) .value [] cs

end ManifestLint.Json
