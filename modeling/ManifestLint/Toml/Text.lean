namespace ManifestLint.Toml

def isBlank (c : Char) : Bool := c == ' ' || c == '\t'

def skipBlank (cs : List Char) : List Char := cs.dropWhile isBlank

def isPlain (c : Char) : Bool := c == '\t' || 0x20 ≤ c.toNat && c.toNat != 0x7F

def newline? : List Char → Option (List Char)
  | '\n' :: cs => some cs
  | '\r' :: '\n' :: cs => some cs
  | _ => none

def skipComment : List Char → List Char
  | '#' :: cs => cs.dropWhile isPlain
  | cs => cs

def lineEnd? (cs : List Char) : Option (List Char) :=
  match skipComment (skipBlank cs) with
  | [] => some []
  | cs => newline? cs

def skipGap : Nat → List Char → List Char
  | 0, cs => cs
  | fuel + 1, cs =>
    match skipComment (skipBlank cs) with
    | '\n' :: cs => skipGap fuel cs
    | '\r' :: '\n' :: cs => skipGap fuel cs
    | cs => cs

def hexValue? (c : Char) : Option Nat :=
  if c.isDigit then some (c.toNat - 48)
  else if 'a' ≤ c ∧ c ≤ 'f' then some (c.toNat - 87)
  else if 'A' ≤ c ∧ c ≤ 'F' then some (c.toNat - 55)
  else none

def hexChar? (ds : List Char) : Option Char := do
  let n ← ds.foldlM (fun n d ↦ (hexValue? d).map (16 * n + ·)) 0
  if n.isValidChar then some (Char.ofNat n) else none

def simpleEscape? : Char → Option Char
  | 'b' => some '\x08'
  | 't' => some '\t'
  | 'n' => some '\n'
  | 'f' => some '\x0c'
  | 'r' => some '\r'
  | '"' => some '"'
  | '\\' => some '\\'
  | _ => none

def prepend (front : List Char) (r : Option (List Char × List Char)) :
    Option (List Char × List Char) :=
  r.map fun p ↦ (front ++ p.1, p.2)

def basicText : List Char → Option (List Char × List Char)
  | '"' :: cs => some ([], cs)
  | '\\' :: 'u' :: a :: b :: c :: d :: cs => do
    let u ← hexChar? [a, b, c, d]
    prepend [u] (basicText cs)
  | '\\' :: 'U' :: a :: b :: c :: d :: e :: f :: g :: h :: cs => do
    let u ← hexChar? [a, b, c, d, e, f, g, h]
    prepend [u] (basicText cs)
  | '\\' :: c :: cs => do
    let e ← simpleEscape? c
    prepend [e] (basicText cs)
  | c :: cs => if isPlain c && c != '\\' then prepend [c] (basicText cs) else none
  | [] => none

def joinsLines (cs : List Char) : Bool := (newline? (skipBlank cs)).isSome

/-- Reads the inside of a text in three double quotes. Up to two quotes may stand before the
closing ones. While `joining`, blanks and line ends are passed over. -/
def longText (joining : Bool) : List Char → Option (List Char × List Char)
  | '"' :: '"' :: '"' :: '"' :: '"' :: cs => some (['"', '"'], cs)
  | '"' :: '"' :: '"' :: '"' :: cs => some (['"'], cs)
  | '"' :: '"' :: '"' :: cs => some ([], cs)
  | '\n' :: cs => prepend (if joining then [] else ['\n']) (longText joining cs)
  | '\r' :: '\n' :: cs => prepend (if joining then [] else ['\n']) (longText joining cs)
  | '\\' :: 'u' :: a :: b :: c :: d :: cs => do
    let u ← hexChar? [a, b, c, d]
    prepend [u] (longText false cs)
  | '\\' :: 'U' :: a :: b :: c :: d :: e :: f :: g :: h :: cs => do
    let u ← hexChar? [a, b, c, d, e, f, g, h]
    prepend [u] (longText false cs)
  | '\\' :: c :: cs =>
    if joinsLines (c :: cs) then longText true (c :: cs)
    else do
      let e ← simpleEscape? c
      prepend [e] (longText false cs)
  | c :: cs =>
    if joining && isBlank c then longText true cs
    else if isPlain c && c != '\\' then prepend [c] (longText false cs)
    else none
  | [] => none

def literalText : List Char → Option (List Char × List Char)
  | '\'' :: cs => some ([], cs)
  | c :: cs => if isPlain c then prepend [c] (literalText cs) else none
  | [] => none

def longLiteral : List Char → Option (List Char × List Char)
  | '\'' :: '\'' :: '\'' :: '\'' :: '\'' :: cs => some (['\'', '\''], cs)
  | '\'' :: '\'' :: '\'' :: '\'' :: cs => some (['\''], cs)
  | '\'' :: '\'' :: '\'' :: cs => some ([], cs)
  | '\n' :: cs => prepend ['\n'] (longLiteral cs)
  | '\r' :: '\n' :: cs => prepend ['\n'] (longLiteral cs)
  | c :: cs => if isPlain c then prepend [c] (longLiteral cs) else none
  | [] => none

def dropFirstNewline (cs : List Char) : List Char := (newline? cs).getD cs

def quotedText : List Char → Option (List Char × List Char)
  | '"' :: '"' :: '"' :: cs => longText false (dropFirstNewline cs)
  | '"' :: cs => basicText cs
  | '\'' :: '\'' :: '\'' :: cs => longLiteral (dropFirstNewline cs)
  | '\'' :: cs => literalText cs
  | _ => none

end ManifestLint.Toml
