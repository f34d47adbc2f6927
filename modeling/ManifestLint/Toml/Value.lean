import ManifestLint.Decimal

namespace ManifestLint.Toml

structure Date where
  year : Nat
  month : Nat
  day : Nat
deriving DecidableEq, Repr, Inhabited

structure Time where
  hour : Nat
  minute : Nat
  second : Nat
  nanosecond : Nat
deriving DecidableEq, Repr, Inhabited

inductive Offset where
  | universal
  | minutes (n : Int)
deriving DecidableEq, Repr, Inhabited

inductive Datetime where
  | date (d : Date)
  | time (t : Time)
  | moment (d : Date) (t : Time) (offset : Option Offset)
deriving DecidableEq, Repr, Inhabited

def padded (width n : Nat) : List Char :=
  let ds := Decimal.digits n
  List.replicate (width - ds.length) '0' ++ ds

def Date.text (d : Date) : List Char :=
  padded 4 d.year ++ ['-'] ++ padded 2 d.month ++ ['-'] ++ padded 2 d.day

def fractionText (nanosecond : Nat) : List Char :=
  if nanosecond = 0 then []
  else '.' :: ((padded 9 nanosecond).reverse.dropWhile (· == '0')).reverse

def Time.text (t : Time) : List Char :=
  padded 2 t.hour ++ [':'] ++ padded 2 t.minute ++ [':'] ++ padded 2 t.second ++
    fractionText t.nanosecond

def Offset.text : Offset → List Char
  | .universal => ['Z']
  | .minutes n =>
    (if n < 0 then '-' else '+') :: padded 2 (n.natAbs / 60) ++ [':'] ++ padded 2 (n.natAbs % 60)

def Datetime.text : Datetime → String
  | .date d => String.ofList d.text
  | .time t => String.ofList t.text
  | .moment d t offset =>
    String.ofList (d.text ++ ['T'] ++ t.text ++ ((offset.map Offset.text).getD []))

/-- A value. Floats are kept as they are written; tables keep the order of their keys. -/
inductive Value where
  | string (text : String)
  | integer (n : Int)
  | float (literal : String)
  | boolean (b : Bool)
  | datetime (d : Datetime)
  | array (items : List Value)
  | table (entries : List (String × Value))
deriving Repr, Inhabited

namespace Value

def asString? : Value → Option String
  | .string text => some text
  | _ => none

def asArray? : Value → Option (List Value)
  | .array items => some items
  | _ => none

end Value

/-- How a table came about: under a header of its own, on the way to the table of a header, or on
the way to a dotted key. -/
inductive Origin where
  | header | parent | dotted
deriving DecidableEq, Repr

/-- What a key stands for: a value, a table, or the tables of an array. Values, inline tables among
them, are never extended. -/
inductive Item where
  | value (v : Value)
  | table (origin : Origin) (entries : List (String × Item))
  | tables (elements : List (List (String × Item)))
deriving Inhabited

abbrev Entries := List (String × Item)

namespace Entries

def replace (entries : Entries) (key : String) (item : Item) : Entries :=
  entries.map fun e ↦ if e.1 = key then (key, item) else e

def put (entries : Entries) (key : String) (item : Item) : Entries :=
  if (entries.lookup key).isSome then entries.replace key item else entries ++ [(key, item)]

def putLast (entries : Entries) (key : String) (item : Item) : Entries :=
  entries.filter (·.1 != key) ++ [(key, item)]

def add? (key : String) (item : Item) (entries : Entries) : Option Entries :=
  if (entries.lookup key).isSome then none else some (entries ++ [(key, item)])

/-- Changes the table at a path. Tables that are missing on the way are made; of an array of tables
the last one is meant. -/
def changeAt (change : Entries → Option Entries) : List String → Entries → Option Entries
  | [], entries => change entries
  | key :: path, entries =>
    match entries.lookup key with
    | none => do
      let sub ← changeAt change path []
      return entries.put key (.table .parent sub)
    | some (.value _) => none
    | some (.table origin sub) => do
      let sub ← changeAt change path sub
      return entries.put key (.table origin sub)
    | some (.tables elements) => do
      let sub ← changeAt change path (elements.getLast?.getD [])
      return entries.put key (.tables (elements.dropLast ++ [sub]))

/-- Opens the table of a header: it must be new, or only have been passed on the way to others. It
takes the last place among its neighbours. -/
def openTable (key : String) (entries : Entries) : Option Entries :=
  match entries.lookup key with
  | none => some (entries.putLast key (.table .header []))
  | some (.table .parent sub) => some (entries.putLast key (.table .header sub))
  | some _ => none

def openElement (key : String) (entries : Entries) : Option Entries :=
  match entries.lookup key with
  | none => some (entries.put key (.tables [[]]))
  | some (.tables elements) => some (entries.put key (.tables (elements ++ [[]])))
  | some _ => none

/-- Assigns a value to a dotted key. The tables on the way must not have a header of their own, and
the last of them must come from dotted keys. -/
def assign (key : String) (v : Value) : List String → Entries → Option Entries
  | [], entries => entries.add? key (.value v)
  | part :: path, entries =>
    match entries.lookup part with
    | none => do
      let sub ← assign key v path []
      return entries.put part (.table .dotted sub)
    | some (.value _) => none
    | some (.table origin sub) =>
      if origin = .header ∨ path = [] ∧ origin ≠ .dotted then none
      else do
        let sub ← assign key v path sub
        return entries.put part (.table origin sub)
    | some (.tables elements) =>
      if path = [] then none
      else do
        let sub ← assign key v path (elements.getLast?.getD [])
        return entries.put part (.tables (elements.dropLast ++ [sub]))

end Entries

mutual

def Item.toValue : Item → Value
  | .value v => v
  | .table _ entries => .table (Item.toValues entries)
  | .tables elements => .array (Item.toTables elements)

def Item.toValues : List (String × Item) → List (String × Value)
  | [] => []
  | (key, item) :: rest => (key, item.toValue) :: Item.toValues rest

def Item.toTables : List (List (String × Item)) → List Value
  | [] => []
  | entries :: rest => .table (Item.toValues entries) :: Item.toTables rest

end

end ManifestLint.Toml
