import ManifestLint.Decimal
import ManifestLint.Text.Printable

namespace ManifestLint.Json

inductive Value where
  | text (s : String)
  | word (n : UInt64)
  | list (items : List Value)
  | object (members : List (String × Value))
deriving Repr, Inhabited

def escape (c : Char) : List Char :=
  if c = '"' then ['\\', '"']
  else if c = '\\' then ['\\', '\\']
  else if c = '\x08' then ['\\', 'b']
  else if c = '\x0c' then ['\\', 'f']
  else if c = '\n' then ['\\', 'n']
  else if c = '\r' then ['\\', 'r']
  else if c = '\t' then ['\\', 't']
  else if c.toNat < 0x10 then ['\\', 'u', '0', '0', '0'] ++ Text.hexDigits c.toNat
  else if c.toNat < 0x20 then ['\\', 'u', '0', '0'] ++ Text.hexDigits c.toNat
  else [c]

def writeText (s : String) : List Char := ['"'] ++ s.toList.flatMap escape ++ ['"']

mutual

def write : Value → List Char
  | .text s => writeText s
  | .word n => Decimal.digits n.toNat
  | .list items => ['['] ++ writeItems items ++ [']']
  | .object members => ['{'] ++ writeMembers members ++ ['}']

def writeItems : List Value → List Char
  | [] => []
  | [v] => write v
  | v :: rest => write v ++ [','] ++ writeItems rest

def writeMembers : List (String × Value) → List Char
  | [] => []
  | [(key, v)] => writeText key ++ [':'] ++ write v
  | (key, v) :: rest => writeText key ++ [':'] ++ write v ++ [','] ++ writeMembers rest

end

def lineBreak (depth : Nat) : List Char := '\n' :: List.replicate (2 * depth) ' '

mutual

def writePretty (depth : Nat) : Value → List Char
  | .text s => writeText s
  | .word n => Decimal.digits n.toNat
  | .list [] => ['[', ']']
  | .list (v :: rest) => ['['] ++ prettyItems (depth + 1) (v :: rest) ++ lineBreak depth ++ [']']
  | .object [] => ['{', '}']
  | .object (m :: rest) =>
    ['{'] ++ prettyMembers (depth + 1) (m :: rest) ++ lineBreak depth ++ ['}']

def prettyItems (depth : Nat) : List Value → List Char
  | [] => []
  | [v] => lineBreak depth ++ writePretty depth v
  | v :: rest => lineBreak depth ++ writePretty depth v ++ [','] ++ prettyItems depth rest

def prettyMembers (depth : Nat) : List (String × Value) → List Char
  | [] => []
  | [(key, v)] => lineBreak depth ++ writeText key ++ [':', ' '] ++ writePretty depth v
  | (key, v) :: rest =>
    lineBreak depth ++ writeText key ++ [':', ' '] ++ writePretty depth v ++ [','] ++
      prettyMembers depth rest

end

end ManifestLint.Json
