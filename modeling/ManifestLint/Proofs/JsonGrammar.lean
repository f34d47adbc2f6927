import ManifestLint.Proofs.JsonLayout

namespace ManifestLint.Json

inductive HexDigit : Nat → Char → Prop
  | lower {v : Nat} : v < 16 → HexDigit v v.digitChar
  | upper {v : Nat} : v < 16 → HexDigit v v.digitChar.toUpper

inductive HexDigits : Nat → List Char → Prop
  | mk {a b c d : Nat} {w x y z : Char} : HexDigit a w → HexDigit b x → HexDigit c y →
      HexDigit d z → HexDigits (4096 * a + 256 * b + 16 * c + d) [w, x, y, z]

def escapes : List (Char × Char) := [
  ('"', '"'), ('\\', '\\'), ('/', '/'), ('b', '\x08'), ('f', '\x0c'), ('n', '\n'), ('r', '\r'),
  ('t', '\t')]

def Unescaped (c : Char) : Prop := c ≠ '"' ∧ c ≠ '\\' ∧ ¬ c.toNat < 0x20

/-- The spellings of a character in a text. A character beyond the sixteen-bit ones is spelled by the
two halves of its surrogate pair. -/
inductive Spelled : Char → List Char → Prop
  | plain {c : Char} : Unescaped c → Spelled c [c]
  | letter {e c : Char} : (e, c) ∈ escapes → Spelled c ['\\', e]
  | digits {c : Char} {us : List Char} : HexDigits c.toNat us → Spelled c ('\\' :: 'u' :: us)
  | pair {c : Char} {high low : List Char} : 0x10000 ≤ c.toNat →
      HexDigits (0xD800 + (c.toNat - 0x10000) / 0x400) high →
      HexDigits (0xDC00 + (c.toNat - 0x10000) % 0x400) low →
      Spelled c ('\\' :: 'u' :: high ++ '\\' :: 'u' :: low)

inductive TextOf : String → List Char → Prop
  | mk {s : String} {parts : List (List Char)} : List.Forall₂ Spelled s.toList parts →
      TextOf s ('"' :: (parts.flatten ++ ['"']))

/-- What a text that need not stand for a string is made of: half a surrogate pair may be missing. -/
inductive Symbol : List Char → Prop
  | plain {c : Char} : Unescaped c → Symbol [c]
  | letter {e c : Char} : (e, c) ∈ escapes → Symbol ['\\', e]
  | digits {n : Nat} {us : List Char} : HexDigits n us → Symbol ('\\' :: 'u' :: us)

inductive AnyText : List Char → Prop
  | mk {parts : List (List Char)} : (∀ part ∈ parts, Symbol part) →
      AnyText ('"' :: (parts.flatten ++ ['"']))

def Digits (ds : List Char) : Prop := ds ≠ [] ∧ ∀ d ∈ ds, d.isDigit = true

def WholeNumber (ds : List Char) : Prop := Digits ds ∧ (ds.head? = some '0' → ds = ['0'])

inductive Fraction : List Char → Prop
  | absent : Fraction []
  | digits {ds : List Char} : Digits ds → Fraction ('.' :: ds)

inductive Exponent : List Char → Prop
  | absent : Exponent []
  | digits {mark : Char} {sign ds : List Char} : mark ∈ ['e', 'E'] →
      sign ∈ [[], ['+'], ['-']] → Digits ds → Exponent (mark :: (sign ++ ds))

inductive AnyNumber : List Char → Prop
  | mk {sign whole fraction exponent : List Char} : sign ∈ [[], ['-']] → WholeNumber whole →
      Fraction fraction → Exponent exponent →
      AnyNumber (sign ++ (whole ++ (fraction ++ exponent)))

def words : List (List Char) :=
  [['n', 'u', 'l', 'l'], ['t', 'r', 'u', 'e'], ['f', 'a', 'l', 's', 'e']]

inductive Scalar : List Char → Prop
  | word {cs : List Char} : cs ∈ words → Scalar cs
  | number {cs : List Char} : AnyNumber cs → Scalar cs
  | text {cs : List Char} : AnyText cs → Scalar cs

def Frame.opener : Frame → Char
  | .list => '['
  | .object => '{'

inductive Key : Frame → List Char → Prop
  | list : Key .list []
  | object {key gap gap' : List Char} : AnyText key → Blanks gap → Blanks gap' →
      Key .object (key ++ (gap ++ ':' :: gap'))

/-- A place of the grammar: a value, or what is left of a list or an object up to the bracket that
closes it, where `first` says that no value has been before. -/
inductive Place where
  | value
  | inside (frame : Frame) (first : Bool)

inductive WellFormed : Place → List Char → Prop
  | scalar {cs : List Char} : Scalar cs → WellFormed .value cs
  | opened {frame : Frame} {cs : List Char} : WellFormed (.inside frame true) cs →
      WellFormed .value (frame.opener :: cs)
  | closed {frame : Frame} {first : Bool} {gap : List Char} : Blanks gap →
      WellFormed (.inside frame first) (gap ++ [frame.close])
  | part {frame : Frame} {first : Bool} {lead key cs ds : List Char} : Lead first lead →
      Key frame key → WellFormed .value cs → WellFormed (.inside frame false) ds →
      WellFormed (.inside frame first) (lead ++ (key ++ (cs ++ ds)))

abbrev Entry := String × (List Char → Prop)

inductive EntryText : Entry → List Char → Prop
  | mk {e : Entry} {key gap gap' cs : List Char} : TextOf e.1 key → Blanks gap → Blanks gap' →
      e.2 cs → EntryText e (key ++ (gap ++ ':' :: (gap' ++ cs)))

/-- The texts of an object that has the given entries, in any order. There may be more of them, with
any values, under keys that are not among the reserved ones. -/
inductive ObjectText (reserved : List String) (entries : List Entry) : List Char → Prop
  | mk {others : List String} {all : List Entry} {cs : List Char} :
      (∀ key ∈ others, key ∉ reserved) →
      all.Perm (entries ++ others.map fun key ↦ (key, WellFormed .value)) →
      Sequence EntryText '}' true all cs → ObjectText reserved entries ('{' :: cs)

inductive ListText {α : Type} (Part : α → List Char → Prop) (items : List α) : List Char → Prop
  | mk {cs : List Char} : Sequence Part ']' true items cs → ListText Part items ('[' :: cs)

end ManifestLint.Json
