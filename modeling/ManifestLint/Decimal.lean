namespace ManifestLint.Decimal

def digitChar (d : Nat) : Char := Char.ofNat (48 + d)

def digitValue (c : Char) : Nat := c.toNat - 48

def digits (n : Nat) : List Char :=
  if n < 10 then [digitChar n] else digits (n / 10) ++ [digitChar (n % 10)]
termination_by n

def valueFrom (start : Nat) (ds : List Char) : Nat :=
  ds.foldl (fun n d ↦ 10 * n + digitValue d) start

def value (ds : List Char) : Nat := valueFrom 0 ds

structure Scientific where
  digits : Nat
  exponent : Int
deriving DecidableEq, Repr

structure Interval where
  low : Nat
  value : Nat
  high : Nat
  denominator : Nat
  closed : Bool
deriving DecidableEq, Repr

/-- The reals that round to `m · 2 ^ q`. On an `edge` the numbers below lie twice as dense as those
above. -/
def Interval.ofBinary (m : Nat) (q : Int) (edge : Bool) : Interval :=
  let scale := Nat.pow 2 q.toNat
  { low := (4 * m - if edge then 1 else 2) * scale
    value := 4 * m * scale
    high := (4 * m + 2) * scale
    denominator := 4 * Nat.pow 2 (-q).toNat
    closed := m % 2 == 0 }

def Interval.nearestMultiple (i : Interval) (k : Int) : Option Nat :=
  let up := Nat.pow 10 (-k).toNat
  let unit := i.denominator * Nat.pow 10 k.toNat
  let below := i.value * up / unit
  let inside (n : Nat) : Bool :=
    if i.closed then i.low * up ≤ n * unit && n * unit ≤ i.high * up
    else i.low * up < n * unit && n * unit < i.high * up
  let left := i.value * up - below * unit
  let right := (below + 1) * unit - i.value * up
  let belowFirst := left < right || left == right && below % 2 == 0
  let (near, far) := if belowFirst then (below, below + 1) else (below + 1, below)
  if inside near then some near else if inside far then some far else none

/-- The shortest decimal in an interval, tried with `10 ^ k`, then with smaller powers. -/
def Interval.shortest (i : Interval) : Nat → Int → Scientific
  | 0, k => ⟨0, k⟩
  | fuel + 1, k =>
    match i.nearestMultiple k with
    | some n => if n = 0 then shortest i fuel (k - 1) else ⟨n, k⟩
    | none => shortest i fuel (k - 1)

def hiddenBit : Nat := Nat.pow 2 52

def shortestOfBits (bits : Nat) : Scientific :=
  let fraction : Nat := bits % hiddenBit
  let exponent : Nat := bits / hiddenBit % 2048
  let i :=
    if exponent = 0 then Interval.ofBinary fraction (-1074) false
    else Interval.ofBinary (fraction + hiddenBit) ((exponent : Int) - 1075)
      (fraction = 0 && 1 < exponent)
  i.shortest 660 310

/-- How decimals are written: without an exponent if the point stands after more than `low` and at
most `high` digits, counted from the first digit, and otherwise with one, which carries `plus` if it
is not negative. -/
structure Style where
  low : Int
  high : Int
  plus : List Char

/-- Messages write a number positionally when its point is at most four zeros before and sixteen
digits after the first digit. Every exponent has a sign. -/
def messageStyle : Style := ⟨-5, 16, ['+']⟩

def Scientific.text (style : Style) (d : Scientific) : String :=
  let ds := Decimal.digits d.digits
  let point : Int := ds.length + d.exponent
  let chars :=
    if 0 ≤ d.exponent ∧ point ≤ style.high then
      ds ++ List.replicate d.exponent.toNat '0' ++ ['.', '0']
    else if 0 < point ∧ point ≤ style.high then
      ds.take point.toNat ++ ['.'] ++ ds.drop point.toNat
    else if style.low < point ∧ point ≤ 0 then
      ['0', '.'] ++ List.replicate (-point).toNat '0' ++ ds
    else
      let sign := if point - 1 < 0 then ['-'] else style.plus
      let fraction := if ds.length = 1 then [] else '.' :: ds.drop 1
      ds.take 1 ++ fraction ++ ['e'] ++ sign ++ Decimal.digits (point - 1).natAbs
  String.ofList chars

def signBit : Nat := Nat.pow 2 63

def floatText (x : Float) : String :=
  let bits := x.toBits.toNat
  let sign := if bits / signBit = 1 then "-" else ""
  let magnitude := bits % signBit
  if magnitude = 0 then sign ++ "0.0"
  else sign ++ (shortestOfBits magnitude).text messageStyle

end ManifestLint.Decimal
