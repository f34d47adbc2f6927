import ManifestLint.Text.Letters
import ManifestLint.Token

namespace ManifestLint

namespace Lexeme

open Text

abbrev Cut := List Char × List Char

def Cut.after (front : List Char) (s : Cut) : Cut := (front ++ s.1, s.2)

def run (p : Char → Bool) (cs : List Char) : Cut := (cs.takeWhile p, cs.dropWhile p)

def isNameChar (c : Char) : Bool := isAlphanumeric c || c == '_'

/-- A name, possibly with `::` between, before or after its segments. -/
def name : List Char → Cut
  | ':' :: ':' :: cs => (name cs).after [':', ':']
  | c :: cs => if isNameChar c then (name cs).after [c] else ([], c :: cs)
  | [] => ([], [])

/-- The inside of a quoted text with its closing quote. A backslash takes the character after it
along, and a text that is never closed goes to the end. -/
def quoted (quote : Char) : List Char → Cut
  | '\\' :: c :: cs => (quoted quote cs).after ['\\', c]
  | c :: cs => if c = quote then ([c], cs) else (quoted quote cs).after [c]
  | [] => ([], [])

def block : List Char → Cut
  | '*' :: '/' :: cs => (['*', '/'], cs)
  | c :: cs => (block cs).after [c]
  | [] => ([], [])

def opensInterpolation (c : Char) : Bool := c == '{' || isAlphabetic c || c == '_'

def literal : List Char → Cut
  | '\\' :: c :: cs => (literal cs).after ['\\', c]
  | '$' :: c :: cs =>
    if opensInterpolation c then ([], '$' :: c :: cs)
    else (literal (c :: cs)).after ['$']
  | c :: cs => (literal cs).after [c]
  | [] => ([], [])

@[simp]
theorem run_append (p : Char → Bool) (cs : List Char) : (run p cs).1 ++ (run p cs).2 = cs :=
  List.takeWhile_append_dropWhile

@[simp]
theorem name_append (cs : List Char) : (name cs).1 ++ (name cs).2 = cs := by
  fun_induction name cs <;> simp_all [Cut.after]

@[simp]
theorem quoted_append (q : Char) (cs : List Char) : (quoted q cs).1 ++ (quoted q cs).2 = cs := by
  fun_induction quoted q cs <;> simp_all [Cut.after]

@[simp]
theorem block_append (cs : List Char) : (block cs).1 ++ (block cs).2 = cs := by
  fun_induction block cs <;> simp_all [Cut.after]

@[simp]
theorem literal_append (cs : List Char) : (literal cs).1 ++ (literal cs).2 = cs := by
  fun_induction literal cs <;> simp_all [Cut.after]

theorem length_le_of_append {s : Cut} {cs : List Char} (h : s.1 ++ s.2 = cs) :
    s.2.length ≤ cs.length := by
  simp [← h]

theorem Cut.length_after_le {s : Cut} {cs : List Char} (h : s.1 ++ s.2 = cs) (front : List Char) :
    (s.after front).2.length ≤ cs.length := by
  have hle := length_le_of_append h
  exact hle

theorem length_name_cons_le {c : Char} {cs : List Char}
    (h : isNameChar c = true ∨ c = ':' ∧ cs.head? = some ':') :
    (name (c :: cs)).2.length ≤ cs.length := by
  have hle := length_le_of_append (name_append cs)
  rcases h with h | ⟨rfl, h⟩
  · rw [name.eq_def]
    split
    · rename_i r heq
      have := length_le_of_append (name_append r)
      simp only [List.cons.injEq] at heq
      simp only [heq.2, Cut.after, List.length_cons]
      omega
    · simp_all [Cut.after]
    · simp
  · obtain ⟨r, rfl⟩ : ∃ r, cs = ':' :: r := by
      cases cs with
      | nil => simp at h
      | cons d r => exact ⟨r, by simpa using h⟩
    have := length_le_of_append (name_append r)
    simp only [name, Cut.after, List.length_cons]
    omega

structure Piece where
  kind : Token.Kind
  text : List Char
deriving DecidableEq, Repr

/-- Operators; where one is the beginning of another, the longer one stands first. -/
def operators : List (List Char × Token.Kind) := [
  (['<', '-'], .outEdge), (['<', '~'], .outEdgeSub), (['-', '>'], .inEdge),
  (['~', '>'], .inEdgeSub), (['=', '>'], .fatArrow), (['+', '>'], .plusArrow),
  (['=', '='], .isEqual), (['!', '='], .notEqual), (['=', '~'], .matches), (['!', '~'], .noMatch),
  (['+', '='], .appends), (['>', '='], .greaterEqual), (['<', '='], .lessEqual),
  (['<', '<'], .leftShift), (['>', '>'], .rightShift), (['<', '|'], .leftCollect),
  (['|', '>'], .rightCollect), (['('], .leftParen), ([')'], .rightParen), (['{'], .leftBrace),
  (['}'], .rightBrace), (['['], .leftBracket), ([']'], .rightBracket), ([','], .comma),
  (['='], .equals), ([':'], .colon), ([';'], .semicolon), (['.'], .dot), (['?'], .questionMark),
  (['<'], .lessThan), (['>'], .greaterThan), (['!'], .not), (['+'], .plus), (['-'], .minus),
  (['*'], .times), (['/'], .div), (['%'], .modulo), (['@'], .at)]

def operatorAt (cs : List Char) : Option (List Char × Token.Kind) :=
  operators.find? fun op ↦ op.1.isPrefixOf cs

def keywords : List (String × Token.Kind) := [
  ("class", .classWord), ("define", .defineWord), ("inherits", .inheritsWord), ("node", .nodeWord),
  ("if", .ifWord), ("elsif", .elsifWord), ("else", .elseWord), ("unless", .unlessWord),
  ("case", .caseWord), ("default", .defaultWord), ("true", .trueWord), ("false", .falseWord),
  ("undef", .undefWord)]

def wordKind (word : List Char) : Token.Kind :=
  match keywords.find? fun k ↦ k.1.toList == word with
  | some k => k.2
  | none => if word.head?.any isUppercase then .classRef else .name

/-- The pieces of a string literal, `lead` being what of its present literal stretch has been read.
A literal stretch holds the `${` and `}` beside it; a name in braces stands without them, a bare
name with its `$`. -/
def interpolated (first : Bool) (lead cs : List Char) : List Piece :=
  let head := if first then Token.Kind.stringHead else .stringMiddle
  match _h : (literal cs).2 with
  | [] => [⟨if first then .string else .stringTail, lead ++ (literal cs).1⟩]
  | '$' :: '{' :: rest =>
    let inner := run (· != '}') rest
    ⟨head, lead ++ (literal cs).1 ++ ['$', '{']⟩ :: ⟨.variable, inner.1⟩ ::
      interpolated false (inner.2.take 1) (inner.2.drop 1)
  | sigil :: rest =>
    let bare := name rest
    ⟨head, lead ++ (literal cs).1⟩ :: ⟨.bareVariable, sigil :: bare.1⟩ ::
      interpolated false [] bare.2
termination_by cs.length
decreasing_by
  · have h1 := length_le_of_append (literal_append cs)
    have h2 := length_le_of_append (run_append (· != '}') rest)
    simp only [_h, List.length_cons, List.length_drop] at h1 h2 ⊢
    omega
  · have h1 := length_le_of_append (literal_append cs)
    have h2 := length_le_of_append (name_append rest)
    simp only [_h, List.length_cons] at h1 h2 ⊢
    omega

def isSpacing (c : Char) : Bool := c == ' ' || c == '\t' || c == '\r'

/-- What can stand first in a source. -/
inductive Lead where
  | newline
  | blank
  | comment
  | slashComment
  | blockComment
  | sigil
  | singleQuoted
  | doubleQuoted
  | number
  | word
  | operator (op : List Char × Token.Kind)
  | other
deriving DecidableEq, Repr

def lead (c : Char) (cs : List Char) : Lead :=
  if c = '\n' then .newline
  else if isSpacing c then .blank
  else if c = '#' then .comment
  else if c = '/' ∧ cs.head? = some '/' then .slashComment
  else if c = '/' ∧ cs.head? = some '*' then .blockComment
  else if c = '$' then .sigil
  else if c = '\'' then .singleQuoted
  else if c = '"' then .doubleQuoted
  else if c.isDigit then .number
  else if isAlphabetic c || c == '_' || (c == ':' && cs.head? == some ':') then .word
  else match operatorAt (c :: cs) with
    | some op => .operator op
    | none => .other

namespace Lead

def cut (c : Char) (cs : List Char) : Lead → Cut
  | .newline | .other => ([c], cs)
  | .blank => (run isSpacing cs).after [c]
  | .comment | .slashComment => (run (· != '\n') cs).after [c]
  | .blockComment => (block cs.tail).after [c, '*']
  | .sigil => (name cs).after [c]
  | .singleQuoted | .doubleQuoted => (quoted c cs).after [c]
  | .number => (run (fun d ↦ isAlphanumeric d || d == '.') cs).after [c]
  | .word => name (c :: cs)
  | .operator op => (op.1, (c :: cs).drop op.1.length)

def kind (lineStart : Bool) (text : List Char) : Lead → Token.Kind
  | .newline => .newline
  | .blank => if lineStart then .indent else .whitespace
  | .comment => .comment
  | .slashComment => .slashComment
  | .blockComment => .blockComment
  | .sigil => .variable
  | .singleQuoted => .singleQuoted
  | .doubleQuoted => .string
  | .number => .number
  | .word => wordKind text
  | .operator op => op.2
  | .other => .name

def pieces (lineStart : Bool) (text : List Char) : Lead → List Piece
  | .doubleQuoted => interpolated true (text.take 1) (text.drop 1)
  | l => [⟨l.kind lineStart text, text⟩]

end Lead

/-- The pieces at the start of the source `c :: cs` and the source after them. -/
def next (lineStart : Bool) (c : Char) (cs : List Char) : List Piece × List Char :=
  let l := lead c cs
  let s := l.cut c cs
  (l.pieces lineStart s.1, s.2)

theorem interpolated_append (first : Bool) (lead cs : List Char) :
    (interpolated first lead cs).flatMap Piece.text = lead ++ cs := by
  fun_induction interpolated first lead cs with
  | case1 first lead cs h =>
    have h1 := literal_append cs
    simp_all
  | case2 first lead cs head rest h inner ih =>
    have h1 := literal_append cs
    have h2 := run_append (· != '}') rest
    rw [h] at h1
    conv => rhs; rw [← h1, ← h2]
    rw [List.take_append_drop] at ih
    simp only [List.flatMap_cons, ih]
    simp [inner]
  | case3 first lead cs head sigil rest hne h bare ih =>
    have h1 := literal_append cs
    have h2 := name_append rest
    rw [h] at h1
    conv => rhs; rw [← h1, ← h2]
    simp [ih, bare]

theorem isPrefixOf_append_drop {p cs : List Char} (h : p.isPrefixOf cs = true) :
    p ++ cs.drop p.length = cs := by
  obtain ⟨r, rfl⟩ := List.isPrefixOf_iff_prefix.1 h
  simp

theorem append_of_operatorAt {cs : List Char} {op : List Char × Token.Kind}
    (h : operatorAt cs = some op) : op.1 ++ cs.drop op.1.length = cs := by
  have h := List.find?_some h
  exact isPrefixOf_append_drop h

theorem ne_nil_of_operatorAt {cs : List Char} {op : List Char × Token.Kind}
    (h : operatorAt cs = some op) : op.1 ≠ [] := by
  have : ∀ op ∈ operators, op.1 ≠ [] := by decide
  exact this op (List.mem_of_find?_eq_some h)

namespace Lead

variable {c : Char} {cs : List Char} {l : Lead}

/-- What the source is like where this stands first. -/
def Fits (c : Char) (cs : List Char) : Lead → Prop
  | .blockComment => cs.head? = some '*'
  | .doubleQuoted => c = '"'
  | .word => isNameChar c = true ∨ c = ':' ∧ cs.head? = some ':'
  | .operator op => operatorAt (c :: cs) = some op
  | _ => True

theorem fits_lead (c : Char) (cs : List Char) : (lead c cs).Fits c cs := by
  unfold lead
  refine iteInduction (fun _ ↦ trivial) fun _ ↦ ?_
  refine iteInduction (fun _ ↦ trivial) fun _ ↦ ?_
  refine iteInduction (fun _ ↦ trivial) fun _ ↦ ?_
  refine iteInduction (fun _ ↦ trivial) fun _ ↦ ?_
  refine iteInduction (fun hstar ↦ hstar.2) fun _ ↦ ?_
  refine iteInduction (fun _ ↦ trivial) fun _ ↦ ?_
  refine iteInduction (fun _ ↦ trivial) fun _ ↦ ?_
  refine iteInduction (fun hquote ↦ hquote) fun _ ↦ ?_
  refine iteInduction (fun _ ↦ trivial) fun _ ↦ ?_
  refine iteInduction (fun hword ↦ ?_) fun _ ↦ ?_
  · simp only [Bool.or_eq_true, Bool.and_eq_true, beq_iff_eq] at hword
    rcases hword with (hletter | hunderscore) | hcolons
    · exact .inl (by simp [isNameChar, isAlphanumeric_of_isAlphabetic hletter])
    · exact .inl (by simp [isNameChar, hunderscore])
    · exact .inr hcolons
  · cases hop : operatorAt (c :: cs) with
    | none => trivial
    | some op => exact hop

theorem cut_append (h : l.Fits c cs) : (l.cut c cs).1 ++ (l.cut c cs).2 = c :: cs := by
  cases l with
  | newline | other => rfl
  | blank | comment | slashComment | number => exact congrArg (c :: ·) (run_append _ cs)
  | blockComment =>
    obtain ⟨rest, rfl⟩ := List.head?_eq_some_iff.mp h
    exact congrArg (c :: '*' :: ·) (block_append rest)
  | sigil => exact congrArg (c :: ·) (name_append cs)
  | singleQuoted | doubleQuoted => exact congrArg (c :: ·) (quoted_append c cs)
  | word => exact name_append (c :: cs)
  | operator op => exact append_of_operatorAt h

theorem length_cut_le (h : l.Fits c cs) : (l.cut c cs).2.length ≤ cs.length := by
  cases l with
  | newline | other => exact Nat.le_refl _
  | blank | comment | slashComment | number => exact Cut.length_after_le (run_append _ cs) [c]
  | blockComment =>
    have htail := Cut.length_after_le (block_append cs.tail) [c, '*']
    rw [List.length_tail] at htail
    exact Nat.le_trans htail (Nat.sub_le _ _)
  | sigil => exact Cut.length_after_le (name_append cs) [c]
  | singleQuoted | doubleQuoted => exact Cut.length_after_le (quoted_append c cs) [c]
  | word => exact length_name_cons_le h
  | operator op =>
    have hpos := List.length_pos_iff.mpr (ne_nil_of_operatorAt h)
    simp only [cut, List.length_drop, List.length_cons]
    omega

theorem pieces_append (l : Lead) (lineStart : Bool) (text : List Char) :
    (l.pieces lineStart text).flatMap Piece.text = text := by
  cases l with
  | doubleQuoted => rw [pieces, interpolated_append, List.take_append_drop]
  | _ => exact List.append_nil text

end Lead

theorem next_append (lineStart : Bool) (c : Char) (cs : List Char) :
    (next lineStart c cs).1.flatMap Piece.text ++ (next lineStart c cs).2 = c :: cs := by
  rw [next, Lead.pieces_append]
  exact Lead.cut_append (Lead.fits_lead c cs)

theorem length_next_le (lineStart : Bool) (c : Char) (cs : List Char) :
    (next lineStart c cs).2.length ≤ cs.length := Lead.length_cut_le (Lead.fits_lead c cs)

end Lexeme

structure Position where
  line : Nat
  column : Nat
deriving DecidableEq, Repr

namespace Position

def start : Position := ⟨1, 1⟩

def advance (p : Position) (c : Char) : Position :=
  if c = '\n' then ⟨p.line + 1, 1⟩ else ⟨p.line, p.column + 1⟩

def after (p : Position) (cs : List Char) : Position := cs.foldl advance p

end Position

namespace Token

def ofPiece (p : Position) (piece : Lexeme.Piece) : Token :=
  ⟨piece.kind, String.ofList piece.text, UInt64.ofNat p.line, UInt64.ofNat p.column⟩

def ofPieces (p : Position) : List Lexeme.Piece → List Token
  | [] => []
  | piece :: rest => ofPiece p piece :: ofPieces (p.after piece.text) rest

def tokenizeFrom (p : Position) : List Char → List Token
  | [] => []
  | c :: cs =>
    let step := Lexeme.next (p.column == 1) c cs
    ofPieces p step.1 ++ tokenizeFrom (p.after (step.1.flatMap Lexeme.Piece.text)) step.2
termination_by cs => cs.length
decreasing_by exact Nat.lt_succ_of_le (Lexeme.length_next_le _ _ _)

def tokenize (source : String) : List Token := tokenizeFrom .start source.toList

end Token

end ManifestLint
