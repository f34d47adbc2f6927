import ManifestLint.Decimal
import ManifestLint.Toml.Text
import ManifestLint.Toml.Value

namespace ManifestLint.Toml

def twoDigits (low high : Nat) : List Char → Option (Nat × List Char)
  | a :: b :: cs =>
    if a.isDigit && b.isDigit then
      let n := Decimal.value [a, b]
      if low ≤ n ∧ n ≤ high then some (n, cs) else none
    else none
  | _ => none

def fourDigits : List Char → Option (Nat × List Char)
  | a :: b :: c :: d :: cs =>
    if [a, b, c, d].all Char.isDigit then some (Decimal.value [a, b, c, d], cs) else none
  | _ => none

def expect (c : Char) : List Char → Option (List Char)
  | d :: cs => if c = d then some cs else none
  | [] => none

def isLeapYear (year : Nat) : Bool := year % 4 == 0 && (year % 100 != 0 || year % 400 == 0)

def daysInMonth (year month : Nat) : Nat :=
  if month = 2 then if isLeapYear year then 29 else 28
  else if month ∈ [4, 6, 9, 11] then 30
  else 31

def date (cs : List Char) : Option (Date × List Char) := do
  let (year, cs) ← fourDigits cs
  let cs ← expect '-' cs
  let (month, cs) ← twoDigits 1 12 cs
  let cs ← expect '-' cs
  let (day, cs) ← twoDigits 1 (daysInMonth year month) cs
  return (⟨year, month, day⟩, cs)

/-- The nanoseconds in the digits behind the point of a second; those behind the ninth are
dropped. -/
def nanoseconds (ds : List Char) : Nat :=
  let ds := ds.take 9
  Decimal.value (ds ++ List.replicate (9 - ds.length) '0')

def secondFraction : List Char → Nat × List Char
  | '.' :: cs =>
    let ds := cs.takeWhile Char.isDigit
    if ds.isEmpty then (0, '.' :: cs) else (nanoseconds ds, cs.dropWhile Char.isDigit)
  | cs => (0, cs)

def time (cs : List Char) : Option (Time × List Char) := do
  let (hour, cs) ← twoDigits 0 23 cs
  let cs ← expect ':' cs
  let (minute, cs) ← twoDigits 0 59 cs
  let cs ← expect ':' cs
  let (second, cs) ← twoDigits 0 60 cs
  let (nanosecond, cs) := secondFraction cs
  return (⟨hour, minute, second, nanosecond⟩, cs)

def offsetMinutes (negative : Bool) (cs : List Char) : Option (Offset × List Char) := do
  let (hours, cs) ← twoDigits 0 23 cs
  let cs ← expect ':' cs
  let (minutes, cs) ← twoDigits 0 59 cs
  let n : Int := 60 * hours + minutes
  return (.minutes (if negative then -n else n), cs)

def offset? : List Char → Option (Option Offset × List Char)
  | 'Z' :: cs => some (some .universal, cs)
  | 'z' :: cs => some (some .universal, cs)
  | '+' :: cs => (offsetMinutes false cs).map fun r ↦ (some r.1, r.2)
  | '-' :: cs => (offsetMinutes true cs).map fun r ↦ (some r.1, r.2)
  | cs => some (none, cs)

def isTimeMark (c : Char) : Bool := c == 'T' || c == 't' || c == ' '

def isTime : List Char → Bool
  | a :: b :: ':' :: _ => a.isDigit && b.isDigit
  | _ => false

def isDatetime (cs : List Char) : Bool :=
  isTime cs || match fourDigits cs with
    | some (_, '-' :: _) => true
    | _ => false

/-- Reads the time that may follow a date. A mark that no time follows does not belong to the
date. -/
def afterDate (d : Date) : List Char → Option (Datetime × List Char)
  | mark :: cs =>
    if isTimeMark mark && isTime cs then do
      let (t, cs) ← time cs
      let (offset, cs) ← offset? cs
      return (.moment d t offset, cs)
    else some (.date d, mark :: cs)
  | [] => some (.date d, [])

def datetime (cs : List Char) : Option (Datetime × List Char) :=
  if isTime cs then (time cs).map fun r ↦ (.time r.1, r.2)
  else (date cs).bind fun r ↦ afterDate r.1 r.2

def Datetime.ofText? (s : String) : Option Datetime :=
  match datetime s.toList with
  | some (d, []) => some d
  | _ => none

/-- Reads digits after a first one. An underscore has to stand between two digits; it is dropped. -/
def moreDigits (isDigit : Char → Bool) : List Char → Option (List Char × List Char)
  | '_' :: c :: cs => if isDigit c then prepend [c] (moreDigits isDigit cs) else none
  | ['_'] => none
  | c :: cs => if isDigit c then prepend [c] (moreDigits isDigit cs) else some ([], c :: cs)
  | [] => some ([], [])

def someDigits (isDigit : Char → Bool) : List Char → Option (List Char × List Char)
  | c :: cs => if isDigit c then prepend [c] (moreDigits isDigit cs) else none
  | [] => none

def decimalDigits : List Char → Option (List Char × List Char)
  | '0' :: cs => some (['0'], cs)
  | cs => someDigits Char.isDigit cs

def sign : List Char → Bool × List Char
  | '+' :: cs => (false, cs)
  | '-' :: cs => (true, cs)
  | cs => (false, cs)

/-- The decimal `m · 10 ^ e` rounds to infinity as a double: it is not below the middle between the
largest double and the next power of two. -/
def overflows (m : Nat) (e : Int) : Bool :=
  if m = 0 then false
  else
    let size : Int := (Decimal.digits m).length + e
    if 310 < size then true
    else if size < 300 then false
    else (Nat.pow 2 1024 - Nat.pow 2 970) * Nat.pow 10 (-e).toNat ≤ m * Nat.pow 10 e.toNat

def exponent (cs : List Char) : Option (Int × List Char) :=
  let (negative, cs) := sign cs
  do
    let (ds, cs) ← someDigits Char.isDigit cs
    let e : Int := Decimal.value ds
    return (if negative then -e else e, cs)

def isExponentMark (c : Char) : Bool := c == 'e' || c == 'E'

def integer? (n : Int) : Option Value :=
  let bound : Int := Nat.pow 2 63
  if -bound ≤ n ∧ n < bound then some (.integer n) else none

def taken (start rest : List Char) : String :=
  String.ofList (start.take (start.length - rest.length))

def float? (literal : String) (negative : Bool) (ds fraction : List Char) (e : Int) :
    Option Value :=
  let tooLarge := overflows (Decimal.value (ds ++ fraction)) (e - fraction.length)
  if !negative && tooLarge then none else some (.float literal)

def decimal (negative : Bool) (start cs : List Char) : Option (Value × List Char) := do
  let (ds, rest) ← decimalDigits cs
  match rest with
  | '.' :: cs => do
    let (fraction, rest) ← someDigits Char.isDigit cs
    match rest with
    | c :: cs =>
      if isExponentMark c then do
        let (e, rest) ← exponent cs
        let v ← float? (taken start rest) negative ds fraction e
        return (v, rest)
      else do
        let v ← float? (taken start rest) negative ds fraction 0
        return (v, rest)
    | [] => do
      let v ← float? (taken start []) negative ds fraction 0
      return (v, [])
  | c :: cs =>
    if isExponentMark c then do
      let (e, rest) ← exponent cs
      let v ← float? (taken start rest) negative ds [] e
      return (v, rest)
    else do
      let v ← integer? (if negative then -(Decimal.value ds : Int) else Decimal.value ds)
      return (v, rest)
  | [] => do
    let v ← integer? (if negative then -(Decimal.value ds : Int) else Decimal.value ds)
    return (v, [])

def based (base : Nat) (isDigit : Char → Bool) (cs : List Char) : Option (Value × List Char) := do
  let (ds, rest) ← someDigits isDigit cs
  let n := ds.foldl (fun n d ↦ base * n + (hexValue? d).getD 0) 0
  let v ← integer? n
  return (v, rest)

def number (cs : List Char) : Option (Value × List Char) :=
  match cs with
  | '0' :: 'x' :: cs => based 16 (fun c ↦ (hexValue? c).isSome) cs
  | '0' :: 'o' :: cs => based 8 (fun c ↦ '0' ≤ c && c ≤ '7') cs
  | '0' :: 'b' :: cs => based 2 (fun c ↦ c == '0' || c == '1') cs
  | _ =>
    match sign cs with
    | (_, 'i' :: 'n' :: 'f' :: rest) => some (.float (taken cs rest), rest)
    | (_, 'n' :: 'a' :: 'n' :: rest) => some (.float (taken cs rest), rest)
    | (negative, rest) => decimal negative cs rest

end ManifestLint.Toml
