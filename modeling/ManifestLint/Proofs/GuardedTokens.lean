import ManifestLint.Proofs.Guarded
import ManifestLint.Proofs.LexemeSteps
import ManifestLint.Proofs.Positions

namespace ManifestLint.Guarded

open Text Lexeme Token

/-- A run with guards that need not end; one that has not ended has no outcome. -/
abbrev Run (α : Type) := ExceptT Fault Option α

def unended {α : Type} : Run α := ExceptT.mk none

def stretch (chars : List Char) (first last : Nat) : Guarded (List Char) :=
  if first ≤ last ∧ last ≤ chars.length then .ok ((chars.drop first).take (last - first))
  else .error (.outOfRange last chars.length)

abbrev Extent := Token.Kind × Nat

def runLength (p : Char → Bool) (chars : List Char) (start : Nat) : Guarded Nat := do
  let rest ← stretch chars start chars.length
  return (rest.takeWhile p).length

def nameEnd (chars : List Char) : Nat → Nat → Run Nat
  | 0, _ => unended
  | turns + 1, i =>
    if i < chars.length then do
      let c ← index chars i
      if isNameChar c then nameEnd chars turns (i + 1)
      else if c = ':' ∧ chars[i + 1]? = some ':' then nameEnd chars turns (i + 2)
      else return i
    else return i

def nameLength (chars : List Char) (turns start : Nat) : Run Nat := do
  let last ← nameEnd chars turns start
  sub last start

def quotedEnd (quote : Char) (chars : List Char) : Nat → Nat → Run Nat
  | 0, _ => unended
  | turns + 1, i =>
    if i < chars.length then do
      let c ← index chars i
      if c = '\\' then quotedEnd quote chars turns (i + 2)
      else if c = quote then return i + 1
      else quotedEnd quote chars turns (i + 1)
    else return chars.length

def quotedLength (chars : List Char) (turns start : Nat) : Run Nat := do
  let quote ← index chars start
  let last ← quotedEnd quote chars turns (start + 1)
  sub last start

def blockEnd (chars : List Char) : Nat → Nat → Run Nat
  | 0, _ => unended
  | turns + 1, i =>
    if i + 1 < chars.length then do
      let c ← index chars i
      let d ← index chars (i + 1)
      if c = '*' ∧ d = '/' then return i + 2 else blockEnd chars turns (i + 1)
    else return chars.length

def blockLength (chars : List Char) (turns start : Nat) : Run Nat := do
  let last ← blockEnd chars turns (start + 2)
  sub last start

def closingBrace (chars : List Char) (last : Nat) : Nat → Nat → Run Nat
  | 0, _ => unended
  | turns + 1, i =>
    if i < last then do
      let c ← index chars i
      if c = '}' then return i else closingBrace chars last turns (i + 1)
    else return last

/-- The pieces of a string literal that ends before `last`, from the literal stretch on that begins
at `literal` and has been read up to `i`. A loop inside has the turns that are left. -/
def interpolated (chars : List Char) (last : Nat) : Nat → Bool → Nat → Nat → Run (List Extent)
  | 0, _, _, _ => unended
  | turns + 1, first, literal, i =>
    let head := if first then Token.Kind.stringHead else .stringMiddle
    if i < last then do
      let c ← index chars i
      if c = '\\' then interpolated chars last turns first literal (i + 2)
      else if c = '$' ∧ chars[i + 1]? = some '{' then
        let leading ← sub (i + 2) literal
        let close ← closingBrace chars last turns (i + 2)
        let inner ← sub close (i + 2)
        let rest ← interpolated chars last turns false close (close + 1)
        return (head, leading) :: (.variable, inner) :: rest
      else if c = '$' ∧ chars[i + 1]?.any (fun d ↦ isAlphabetic d || d == '_') then
        let leading ← sub i literal
        let bare ← nameLength chars turns (i + 1)
        let rest ← interpolated chars last turns false (i + 1 + bare) (i + 1 + bare)
        return (head, leading) :: (.bareVariable, 1 + bare) :: rest
      else interpolated chars last turns first literal (i + 1)
    else do
      let tail ← sub last literal
      return [(if first then .string else .stringTail, tail)]

def doubleQuoted (chars : List Char) (turns start : Nat) : Run (List Extent) := do
  let length ← quotedLength chars turns start
  interpolated chars (start + length) turns true start (start + 1)

def nextPieces (chars : List Char) (turns pos column : Nat) : Run (List Extent) := do
  let c ← index chars pos
  let two ← stretch chars pos (min chars.length (pos + 2))
  if c = '\n' then return [(.newline, 1)]
  else if isSpacing c then
    let length ← runLength isSpacing chars pos
    return [(if column = 1 then .indent else .whitespace, length)]
  else if c = '#' then
    let length ← runLength (· != '\n') chars pos
    return [(.comment, length)]
  else if two = ['/', '/'] then
    let length ← runLength (· != '\n') chars pos
    return [(.slashComment, length)]
  else if two = ['/', '*'] then
    let length ← blockLength chars turns pos
    return [(.blockComment, length)]
  else if c = '$' then
    let length ← nameLength chars turns (pos + 1)
    return [(.variable, 1 + length)]
  else if c = '\'' then
    let length ← quotedLength chars turns pos
    return [(.singleQuoted, length)]
  else if c = '"' then doubleQuoted chars turns pos
  else if c.isDigit then
    let length ← runLength (fun d ↦ isAlphanumeric d || d == '.') chars pos
    return [(.number, length)]
  else if isAlphabetic c || c == '_' || two == [':', ':'] then
    let length ← nameLength chars turns pos
    let word ← stretch chars pos (pos + length)
    return [(wordKind word, length)]
  else
    let rest ← stretch chars pos chars.length
    match operators.find? fun op ↦ rest.take op.1.length == op.1 with
    | some op => return [(op.2, op.1.length)]
    | none => return [(.name, 1)]

def place (chars : List Char) (pos : Nat) (p : Position) :
    List Extent → Run (List Token × Nat × Position)
  | [] => return ([], pos, p)
  | (kind, length) :: rest => do
    let text ← stretch chars pos (pos + length)
    let placed ← place chars (pos + length) (p.after text) rest
    return (ofPiece p ⟨kind, text⟩ :: placed.1, placed.2)

def tokenizeFrom (chars : List Char) : Nat → Nat → Position → Run (List Token)
  | 0, _, _ => unended
  | turns + 1, pos, p =>
    if pos < chars.length then do
      let pieces ← nextPieces chars turns pos p.column
      let placed ← place chars pos p pieces
      let rest ← tokenizeFrom chars turns placed.2.1 placed.2.2
      return placed.1 ++ rest
    else return []

def tokenize (turns : Nat) (source : String) : Run (List Token) :=
  tokenizeFrom source.toList turns 0 .start

theorem exists_turn {k turns : Nat} (h : k < turns) : ∃ n, turns = n + 1 :=
  Nat.exists_eq_add_one.mpr (Nat.zero_lt_of_lt h)

section Spans

variable {chars : List Char} {turns i : Nat}

@[simp]
theorem lift_ok_bind {α β : Type} (a : α) (f : α → Run β) :
    ((liftM (Except.ok a : Guarded α) : Run α) >>= f) = f a := rfl

@[simp]
theorem lift_ok {α : Type} (a : α) : (liftM (Except.ok a : Guarded α) : Run α) = pure a := rfl

theorem stretch_eq_ok {first last : Nat} (h : first ≤ last) (hl : last ≤ chars.length) :
    stretch chars first last = .ok ((chars.drop first).take (last - first)) := if_pos ⟨h, hl⟩

theorem lt_length_of_drop_eq_cons {c : Char} {cs : List Char} (h : chars.drop i = c :: cs) :
    i < chars.length := by
  by_contra! hlen
  rw [List.drop_eq_nil_of_le hlen] at h
  cases h

theorem nameEnd_eq {cs : List Char} (h : chars.drop i = cs) (ht : chars.length - i < turns) :
    nameEnd chars turns i = pure (i + (name cs).1.length) := by
  fun_induction name cs generalizing i turns with
  | case1 cs ih =>
    obtain ⟨turns, rfl⟩ := exists_turn ht
    obtain ⟨hc, htail⟩ := Stream.getElem?_of_drop_eq_cons h
    obtain ⟨hd, hrest⟩ := Stream.getElem?_of_drop_eq_cons htail
    have hlt := lt_length_of_drop_eq_cons h
    rw [nameEnd, if_pos hlt, index_eq_ok hc, lift_ok_bind, if_neg (by decide), if_pos ⟨rfl, hd⟩,
      ih hrest (by omega), length_after, ← Nat.add_assoc]
    rfl
  | case2 c cs hne hc ih =>
    obtain ⟨turns, rfl⟩ := exists_turn ht
    obtain ⟨hc', htail⟩ := Stream.getElem?_of_drop_eq_cons h
    have hlt := lt_length_of_drop_eq_cons h
    rw [nameEnd, if_pos hlt, index_eq_ok hc', lift_ok_bind, if_pos hc, ih htail (by omega),
      length_after, ← Nat.add_assoc]
    rfl
  | case3 c cs hne hc =>
    obtain ⟨turns, rfl⟩ := exists_turn ht
    obtain ⟨hc', htail⟩ := Stream.getElem?_of_drop_eq_cons h
    have hcolon : ¬ (c = ':' ∧ chars[i + 1]? = some ':') := by
      rintro ⟨heq, hd⟩
      exact hne _ heq (htail.symm.trans (Stream.drop_eq_cons_of_getElem? hd))
    rw [nameEnd, if_pos (lt_length_of_drop_eq_cons h), index_eq_ok hc', lift_ok_bind, if_neg hc,
      if_neg hcolon]
    rfl
  | case4 =>
    obtain ⟨turns, rfl⟩ := exists_turn ht
    rw [nameEnd, if_neg (by simpa using h)]
    rfl

theorem nameLength_eq (ht : chars.length - i < turns) :
    nameLength chars turns i = pure (name (chars.drop i)).1.length := by
  rw [nameLength, nameEnd_eq rfl ht, pure_bind, sub_eq_ok (Nat.le_add_right _ _), lift_ok,
    Nat.add_sub_cancel_left]

theorem quotedEnd_backslash (quote : Char) (h : chars.drop i = ['\\'])
    (ht : chars.length - i < turns) : quotedEnd quote chars turns i = pure (i + 1) := by
  obtain ⟨turns, rfl⟩ := exists_turn ht
  obtain ⟨hc, htail⟩ := Stream.getElem?_of_drop_eq_cons h
  have hlt := lt_length_of_drop_eq_cons h
  have hlen : chars.length = i + 1 := by
    rw [List.drop_eq_nil_iff] at htail
    omega
  obtain ⟨turns, rfl⟩ := exists_turn (show 0 < turns by omega)
  rw [quotedEnd, if_pos hlt, index_eq_ok hc, lift_ok_bind, if_pos rfl, quotedEnd,
    if_neg (by omega), hlen]

theorem quotedEnd_eq {quote : Char} (hq : quote ≠ '\\') {cs : List Char}
    (h : chars.drop i = cs) (hi : i ≤ chars.length) (ht : chars.length - i < turns) :
    quotedEnd quote chars turns i = pure (i + (quoted quote cs).1.length) := by
  fun_induction quoted quote cs generalizing i turns with
  | case1 c cs ih =>
    obtain ⟨turns, rfl⟩ := exists_turn ht
    obtain ⟨hc, htail⟩ := Stream.getElem?_of_drop_eq_cons h
    obtain ⟨_, hrest⟩ := Stream.getElem?_of_drop_eq_cons htail
    have hlt := lt_length_of_drop_eq_cons htail
    rw [quotedEnd, if_pos (by omega), index_eq_ok hc, lift_ok_bind, if_pos rfl,
      ih hrest hlt (by omega), length_after, ← Nat.add_assoc]
    rfl
  | case2 cs hne =>
    obtain ⟨turns, rfl⟩ := exists_turn ht
    obtain ⟨hc, _⟩ := Stream.getElem?_of_drop_eq_cons h
    rw [quotedEnd, if_pos (lt_length_of_drop_eq_cons h), index_eq_ok hc, lift_ok_bind, if_neg hq,
      if_pos rfl]
    rfl
  | case3 c cs hne hc ih =>
    obtain ⟨hc', htail⟩ := Stream.getElem?_of_drop_eq_cons h
    have hlt := lt_length_of_drop_eq_cons h
    by_cases hb : c = '\\'
    · obtain rfl : cs = [] := by
        cases cs with
        | nil => rfl
        | cons d ds => exact (hne d ds hb rfl).elim
      rw [quotedEnd_backslash quote (hb ▸ h) ht]
      rfl
    · obtain ⟨turns, rfl⟩ := exists_turn ht
      rw [quotedEnd, if_pos hlt, index_eq_ok hc', lift_ok_bind, if_neg hb, if_neg hc,
        ih htail hlt (by omega), length_after, ← Nat.add_assoc]
      rfl
  | case4 =>
    obtain ⟨turns, rfl⟩ := exists_turn ht
    have hlen := List.drop_eq_nil_iff.mp h
    rw [quotedEnd, if_neg (Nat.not_lt.mpr hlen), Nat.le_antisymm hlen hi]
    rfl

theorem quotedLength_eq {quote : Char} {cs : List Char} (hq : quote ≠ '\\')
    (h : chars.drop i = quote :: cs) (ht : chars.length - i < turns) :
    quotedLength chars turns i = pure (1 + (quoted quote cs).1.length) := by
  obtain ⟨hc, htail⟩ := Stream.getElem?_of_drop_eq_cons h
  have hlt := lt_length_of_drop_eq_cons h
  rw [quotedLength, index_eq_ok hc, lift_ok_bind, quotedEnd_eq hq htail hlt (by omega), pure_bind,
    sub_eq_ok (by omega), lift_ok]
  congr 1
  omega

theorem blockEnd_eq {cs : List Char} (h : chars.drop i = cs) (hi : i ≤ chars.length)
    (ht : chars.length - i < turns) :
    blockEnd chars turns i = pure (i + (block cs).1.length) := by
  fun_induction block cs generalizing i turns with
  | case1 cs =>
    obtain ⟨turns, rfl⟩ := exists_turn ht
    obtain ⟨hc, htail⟩ := Stream.getElem?_of_drop_eq_cons h
    obtain ⟨hd, _⟩ := Stream.getElem?_of_drop_eq_cons htail
    rw [blockEnd, if_pos (lt_length_of_drop_eq_cons htail), index_eq_ok hc, lift_ok_bind,
      index_eq_ok hd, lift_ok_bind, if_pos ⟨rfl, rfl⟩]
    rfl
  | case2 c cs hne ih =>
    obtain ⟨turns, rfl⟩ := exists_turn ht
    obtain ⟨hc, htail⟩ := Stream.getElem?_of_drop_eq_cons h
    have hlt := lt_length_of_drop_eq_cons h
    rw [length_after, ← Nat.add_assoc]
    cases cs with
    | nil =>
      rw [List.drop_eq_nil_iff] at htail
      rw [blockEnd, if_neg (by omega), Nat.le_antisymm htail hlt]
      rfl
    | cons d ds =>
      obtain ⟨hd, _⟩ := Stream.getElem?_of_drop_eq_cons htail
      rw [blockEnd, if_pos (lt_length_of_drop_eq_cons htail), index_eq_ok hc, lift_ok_bind,
        index_eq_ok hd, lift_ok_bind, if_neg (fun he ↦ hne ds he.1 (by rw [he.2])),
        ih htail hlt (by omega)]
      rfl
  | case3 =>
    obtain ⟨turns, rfl⟩ := exists_turn ht
    have hlen := List.drop_eq_nil_iff.mp h
    rw [blockEnd, if_neg (by omega), Nat.le_antisymm hlen hi]
    rfl

theorem blockLength_eq {cs : List Char} {c d : Char} (h : chars.drop i = c :: d :: cs)
    (ht : chars.length - i < turns) :
    blockLength chars turns i = pure (2 + (block cs).1.length) := by
  obtain ⟨_, htail⟩ := Stream.getElem?_of_drop_eq_cons h
  obtain ⟨_, hrest⟩ := Stream.getElem?_of_drop_eq_cons htail
  rw [blockLength, blockEnd_eq hrest (lt_length_of_drop_eq_cons htail) (by omega), pure_bind,
    sub_eq_ok (by omega), lift_ok]
  congr 1
  omega

theorem runLength_eq (p : Char → Bool) (hi : i ≤ chars.length) :
    runLength p chars i = .ok ((chars.drop i).takeWhile p).length := by
  rw [runLength, stretch_eq_ok hi le_rfl, ok_bind, List.take_of_length_le (by simp)]
  rfl

end Spans

section Interpolation

/-- A stretch that is closed by a quote or goes to the end of the source. -/
def Closed (cs after : List Char) : Prop := after = [] ∨ ∀ c ∈ cs.getLast?, c = '"'

theorem Closed.of_append (front : List Char) {cs after : List Char}
    (h : Closed (front ++ cs) after) : Closed cs after := by
  refine h.imp_right fun h c hc ↦ h c ?_
  rw [List.getLast?_append, hc]
  rfl

theorem name_append_of_closed {cs after : List Char} (h : Closed cs after) (hne : cs ≠ []) :
    (name (cs ++ after)).1 = (name cs).1 := by
  rcases h with rfl | h
  · rw [List.append_nil]
  · have hlast := h _ (List.getLast?_eq_some_getLast hne)
    rw [← List.dropLast_concat_getLast hne, hlast, List.append_assoc, List.singleton_append,
      name_quote]

variable {chars : List Char} {last turns i start : Nat}

def extent (piece : Piece) : Extent := (piece.kind, piece.text.length)

theorem closingBrace_eq {cs after : List Char} (h : chars.drop i = cs ++ after)
    (hlast : i + cs.length = last) (ht : cs.length < turns) :
    closingBrace chars last turns i = pure (i + (cs.takeWhile (· != '}')).length) := by
  induction cs generalizing i turns with
  | nil =>
    obtain ⟨turns, rfl⟩ := exists_turn ht
    rw [closingBrace, if_neg (by simp [← hlast]), ← hlast]
    rfl
  | cons c cs ih =>
    obtain ⟨turns, rfl⟩ := exists_turn ht
    rw [List.length_cons] at hlast ht
    obtain ⟨hc, htail⟩ := Stream.getElem?_of_drop_eq_cons h
    rw [closingBrace, if_pos (by omega), index_eq_ok hc, lift_ok_bind]
    by_cases hb : c = '}'
    · rw [if_pos hb, List.takeWhile_cons_of_neg (by simpa using hb)]
      rfl
    · rw [if_neg hb, ih htail (by omega) (by omega), List.takeWhile_cons_of_pos (by simpa using hb),
        List.length_cons, ← Nat.add_assoc, Nat.add_right_comm]

theorem interpolated_end (first : Bool) {lead : List Char} (hi : last ≤ i)
    (hlead : start + lead.length = last) :
    interpolated chars last (turns + 1) first start i =
      pure ((Lexeme.interpolated first lead []).map extent) := by
  rw [interpolated, if_neg (by omega), sub_eq_ok (by omega), lift_ok_bind, Lexeme.interpolated]
  simp [literal, extent, ← hlead]

/-- From `i` on, where `cs` is left of the literal, the scan finds the pieces of the literal. -/
def Scans (chars : List Char) (last turns i : Nat) (cs : List Char) : Prop :=
  ∀ (first : Bool) (start : Nat) (lead : List Char), start + lead.length = i →
    interpolated chars last turns first start i =
      pure ((Lexeme.interpolated first lead cs).map extent)

theorem scans_backslash (hc : chars[i]? = some '\\') (hlast : i + 1 = last) :
    Scans chars last (turns + 2) i ['\\'] := by
  intro first start lead hlead
  have hend : start + (lead ++ ['\\']).length = last := by
    rw [List.length_append, List.length_singleton]
    omega
  rw [interpolated, if_pos (by omega), index_eq_ok hc, lift_ok_bind, if_pos rfl,
    ← List.append_nil ['\\'], interpolated_append_front first lead _ _ rfl]
  exact interpolated_end first (by omega) hend

theorem Scans.escape {d : Char} {rest : List Char} (h : Scans chars last turns (i + 2) rest)
    (hc : chars[i]? = some '\\') (hi : i < last) :
    Scans chars last (turns + 1) i ('\\' :: d :: rest) := by
  intro first start lead hlead
  have hstep := interpolated_append_front first lead ['\\', d] rest rfl
  rw [List.cons_append, List.singleton_append] at hstep
  rw [interpolated, if_pos hi, index_eq_ok hc, lift_ok_bind, if_pos rfl, hstep]
  apply h
  rw [List.length_append, ← hlead]
  rfl

theorem Scans.literal {c : Char} {rest : List Char} (h : Scans chars last turns (i + 1) rest)
    (hc : chars[i]? = some c) (hi : i < last) (hb : c ≠ '\\')
    (hnext : c = '$' → chars[i + 1]? = rest.head?)
    (hopens : c = '$' → ∀ d ∈ rest.head?, opensInterpolation d = false) :
    Scans chars last (turns + 1) i (c :: rest) := by
  intro first start lead hlead
  have hbraces : ¬ (c = '$' ∧ chars[i + 1]? = some '{') := by
    rintro ⟨hc, hbrace⟩
    rw [hnext hc] at hbrace
    exact absurd (hopens hc '{' hbrace) (by decide)
  have hbare : ¬ (c = '$' ∧ chars[i + 1]?.any (fun d ↦ isAlphabetic d || d == '_') = true) := by
    rintro ⟨hc, hbare⟩
    rw [hnext hc, Option.any_eq_true] at hbare
    obtain ⟨d, hd, ha⟩ := hbare
    have hno := hopens hc d hd
    simp_all [opensInterpolation]
  rw [interpolated, if_pos hi, index_eq_ok hc, lift_ok_bind, if_neg hb, if_neg hbraces,
    if_neg hbare, ← List.singleton_append,
    interpolated_append_front first lead _ _ (literal_cons hb hopens)]
  apply h
  rw [List.length_append, ← hlead]
  rfl

theorem scans_braces {rest after : List Char} (hdrop : chars.drop i = '$' :: '{' :: (rest ++ after))
    (hlast : i + 2 + rest.length = last) (ht : rest.length < turns)
    (h : ∀ body e es, rest = body ++ e :: es →
      Scans chars last turns (i + 2 + body.length + 1) es) :
    Scans chars last (turns + 1) i ('$' :: '{' :: rest) := by
  intro first start lead hlead
  obtain ⟨hc, htail⟩ := Stream.getElem?_of_drop_eq_cons hdrop
  obtain ⟨hd, hrest⟩ := Stream.getElem?_of_drop_eq_cons htail
  have hleading : i + 2 - start = (lead ++ ['$', '{']).length := by
    rw [List.length_append, ← hlead, Nat.add_assoc, Nat.add_sub_cancel_left]
    rfl
  have hrun := run_append (· != '}') rest
  have hclose := closingBrace_eq hrest hlast ht
  rw [interpolated, if_pos (by omega), index_eq_ok hc, lift_ok_bind, if_neg (by decide),
    if_pos ⟨rfl, hd⟩, sub_eq_ok (by omega), lift_ok_bind, hleading, interpolated_braces]
  change closingBrace chars last turns (i + 2) =
    pure (i + 2 + (run (· != '}') rest).1.length) at hclose
  generalize run (· != '}') rest = inner at hrun hclose ⊢
  obtain ⟨body, tail⟩ := inner
  have hpieces :
      interpolated chars last turns false (i + 2 + body.length) (i + 2 + body.length + 1) =
        pure ((Lexeme.interpolated false (tail.take 1) (tail.drop 1)).map extent) := by
    cases tail with
    | nil =>
      obtain ⟨turns, rfl⟩ := exists_turn ht
      have hend : i + 2 + body.length = last := by rw [← hlast, ← hrun, List.append_nil]
      exact interpolated_end false (by omega) hend
    | cons e es => exact h body e es hrun.symm false _ [e] rfl
  rw [hclose, pure_bind, sub_eq_ok (Nat.le_add_right _ _), lift_ok_bind, Nat.add_sub_cancel_left,
    hpieces, pure_bind]
  rfl

theorem scans_bare {d : Char} {rest after : List Char}
    (hdrop : chars.drop i = '$' :: d :: (rest ++ after)) (hclosed : Closed (d :: rest) after)
    (hlast : i + 1 < last) (ht : chars.length - (i + 1) < turns) (hd : d ≠ '{')
    (ha : (isAlphabetic d || d == '_') = true)
    (h : Scans chars last turns (i + 1 + (name (d :: rest)).1.length) (name (d :: rest)).2) :
    Scans chars last (turns + 1) i ('$' :: d :: rest) := by
  intro first start lead hlead
  obtain ⟨hc, htail⟩ := Stream.getElem?_of_drop_eq_cons hdrop
  obtain ⟨hnext, _⟩ := Stream.getElem?_of_drop_eq_cons htail
  have hbraces : ¬ ('$' = '$' ∧ chars[i + 1]? = some '{') := by
    rintro ⟨_, hbrace⟩
    exact hd (Option.some.inj (hnext.symm.trans hbrace))
  have hname : nameLength chars turns (i + 1) = pure (name (d :: rest)).1.length := by
    rw [nameLength_eq ht, htail, ← List.cons_append,
      name_append_of_closed hclosed (List.cons_ne_nil d rest)]
  have hleading : i - start = lead.length := by omega
  have hpieces := h false (i + 1 + (name (d :: rest)).1.length) [] rfl
  rw [interpolated, if_pos (by omega), index_eq_ok hc, lift_ok_bind, if_neg (by decide),
    if_neg hbraces, if_pos ⟨rfl, by rw [hnext]; exact ha⟩, sub_eq_ok (by omega), lift_ok_bind, hname,
    pure_bind, hleading, hpieces, pure_bind, interpolated_bare first lead rest ha hd, List.map_cons,
    List.map_cons, extent, extent, List.length_cons, Nat.add_comm 1]

theorem getElem?_of_closed {c : Char} {rest after : List Char}
    (h : chars.drop i = c :: (rest ++ after)) (hclosed : Closed (c :: rest) after) (hc : c ≠ '"') :
    chars[i + 1]? = rest.head? := by
  obtain ⟨_, htail⟩ := Stream.getElem?_of_drop_eq_cons h
  rw [← List.head?_drop, htail]
  cases rest with
  | nil =>
    rcases hclosed with rfl | hquote
    · rfl
    · exact (hc (hquote c rfl)).elim
  | cons d ds => rfl

theorem scans_of_closed {cs after : List Char} (h : chars.drop i = cs ++ after)
    (hclosed : Closed cs after) (hlast : i + cs.length = last) (ht : chars.length - i < turns) :
    Scans chars last turns i cs := by
  induction hn : cs.length using Nat.strong_induction_on generalizing i cs turns with
  | h n ih =>
  obtain ⟨turns, rfl⟩ := exists_turn ht
  have hlen : chars.length - i = cs.length + after.length := by
    rw [← List.length_drop, h, List.length_append]
  have hnext (front rest : List Char) (hcs : cs = front ++ rest) (hne : front ≠ []) {j : Nat}
      (hj : i + front.length = j) : Scans chars last turns j rest := by
    have hpos := List.length_pos_iff.mpr hne
    have hdrop : chars.drop j = rest ++ after := by
      rw [← hj, ← List.drop_drop, h, hcs, List.append_assoc, List.drop_left]
    subst hcs
    rw [List.length_append] at hn hlast hlen
    exact ih rest.length (by omega) hdrop (hclosed.of_append front) (by omega) (by omega) rfl
  rcases cs with _ | ⟨c, rest⟩
  · intro first start lead hlead
    exact interpolated_end first hlast.ge (hlead.trans hlast)
  rw [List.length_cons] at hlast hlen
  obtain ⟨hc, _⟩ := Stream.getElem?_of_drop_eq_cons h
  have hlook := getElem?_of_closed h hclosed
  by_cases hb : c = '\\'
  · subst hb
    rcases rest with _ | ⟨d, rest⟩
    · obtain ⟨turns, rfl⟩ := exists_turn (show 0 < turns by omega)
      exact scans_backslash hc hlast
    · exact (hnext ['\\', d] rest rfl (List.cons_ne_nil _ _) rfl).escape hc (by omega)
  by_cases hopens : c = '$' ∧ ∃ d ∈ rest.head?, opensInterpolation d = true
  · obtain ⟨rfl, d, hd, hopens⟩ := hopens
    rcases rest with _ | ⟨e, rest⟩
    · cases hd
    obtain rfl : e = d := Option.some.inj hd
    rw [List.length_cons] at hlast hlen
    by_cases hbrace : e = '{'
    · subst hbrace
      refine scans_braces h (by omega) (by omega) fun body e es hrest ↦ ?_
      refine hnext ('$' :: '{' :: body ++ [e]) es (by simp [hrest]) (by simp) ?_
      simp only [List.length_append, List.length_cons, List.length_nil]
      omega
    · have ha : (isAlphabetic e || e == '_') = true := by simp_all [opensInterpolation]
      refine scans_bare h (Closed.of_append ['$'] hclosed) (by omega) (by omega) hbrace ha ?_
      refine hnext ('$' :: (name (e :: rest)).1) _ ?_ (List.cons_ne_nil _ _) ?_
      · rw [List.cons_append, name_append]
      · rw [List.length_cons]
        omega
  · refine (hnext [c] rest rfl (List.cons_ne_nil _ _) rfl).literal hc (by omega) hb
      (fun hc ↦ hlook (by rw [hc]; decide)) fun hc d hd ↦ ?_
    by_contra hno
    exact hopens ⟨hc, d, hd, by simpa using hno⟩

theorem doubleQuoted_eq {cs : List Char} (h : chars.drop i = '"' :: cs)
    (ht : chars.length - i < turns) :
    doubleQuoted chars turns i =
      pure ((Lexeme.interpolated true ['"'] (quoted '"' cs).1).map extent) := by
  obtain ⟨_, htail⟩ := Stream.getElem?_of_drop_eq_cons h
  rw [← quoted_append '"' cs] at htail
  have hclosed : Closed (quoted '"' cs).1 (quoted '"' cs).2 := by
    refine (quoted_getLast? '"' cs).imp_right fun hlast c hc ↦ ?_
    rw [hlast] at hc
    exact (Option.some.inj hc).symm
  rw [doubleQuoted, quotedLength_eq (by decide) h ht, pure_bind, ← Nat.add_assoc]
  exact scans_of_closed htail hclosed rfl (by omega) true i ['"'] rfl

end Interpolation

section Tokens

variable {chars : List Char} {turns pos : Nat} {c : Char} {cs : List Char}

theorem pure_extent_after (kind : Token.Kind) (front : List Char) (s : Cut) :
    (pure [(kind, front.length + s.1.length)] : Run (List Extent)) =
      pure ([⟨kind, (s.after front).1⟩].map extent) := by
  rw [List.map_singleton, extent, length_after]

theorem runLength_cons {p : Char → Bool} (h : chars.drop pos = c :: cs) (hp : p c = true) :
    runLength p chars pos = .ok (1 + (run p cs).1.length) := by
  rw [runLength_eq p (lt_length_of_drop_eq_cons h).le, h, List.takeWhile_cons_of_pos hp,
    List.length_cons, Nat.add_comm]
  rfl

theorem stretch_two (h : chars.drop pos = c :: cs) :
    stretch chars pos (min chars.length (pos + 2)) = .ok ((c :: cs).take 2) := by
  have hlt := lt_length_of_drop_eq_cons h
  have hlen := congrArg List.length h
  rw [List.length_drop] at hlen
  rw [stretch_eq_ok (by omega) (Nat.min_le_left _ _), h]
  congr 1
  rw [List.take_eq_take_iff]
  omega

theorem stretch_front {front rest : List Char} (h : chars.drop pos = front ++ rest)
    (hpos : pos ≤ chars.length) : stretch chars pos (pos + front.length) = .ok front := by
  have hlen := congrArg List.length h
  rw [List.length_drop, List.length_append] at hlen
  rw [stretch_eq_ok (Nat.le_add_right _ _) (by omega), h, Nat.add_sub_cancel_left, List.take_left]

theorem stretch_all (hpos : pos ≤ chars.length) :
    stretch chars pos chars.length = .ok (chars.drop pos) := by
  rw [stretch_eq_ok hpos le_rfl, List.take_of_length_le (by rw [List.length_drop])]

theorem take_two_eq_iff {a b : Char} : (c :: cs).take 2 = [a, b] ↔ c = a ∧ cs.head? = some b := by
  cases cs <;> simp

theorem find?_operators (cs : List Char) :
    (operators.find? fun op ↦ cs.take op.1.length == op.1) = operatorAt cs := by
  unfold operatorAt
  congr
  funext op
  rw [Bool.eq_iff_iff, beq_iff_eq, List.isPrefixOf_iff_prefix, List.prefix_iff_eq_take, eq_comm]

theorem take_two_beq {a b : Char} :
    ((c :: cs).take 2 == [a, b]) = (c == a && cs.head? == some b) := by
  rw [Bool.eq_iff_iff, beq_iff_eq, take_two_eq_iff, Bool.and_eq_true, beq_iff_eq, beq_iff_eq]

theorem ite_eq_of_lead {p : Prop} [Decidable p] {a b : Run (List Extent)}
    {f : Lead → Run (List Extent)} {l m : Lead} (hl : p → a = f l) (hm : ¬ p → b = f m) :
    (if p then a else b) = f (if p then l else m) := by
  by_cases h : p
  · rw [if_pos h, if_pos h, hl h]
  · rw [if_neg h, if_neg h, hm h]

theorem nextPieces_eq (h : chars.drop pos = c :: cs) (ht : chars.length - pos < turns)
    (column : Nat) :
    nextPieces chars turns pos column = pure ((next (column == 1) c cs).1.map extent) := by
  obtain ⟨hc, htail⟩ := Stream.getElem?_of_drop_eq_cons h
  have hlt := lt_length_of_drop_eq_cons h
  let f (l : Lead) : Run (List Extent) := pure ((l.pieces (column == 1) (l.cut c cs).1).map extent)
  change _ = f (lead c cs)
  rw [nextPieces, index_eq_ok hc, lift_ok_bind, stretch_two h, lift_ok_bind, lead]
  simp only [take_two_eq_iff]
  refine ite_eq_of_lead (fun hc ↦ rfl) fun _ ↦ ?_
  refine ite_eq_of_lead (fun hc ↦ ?_) fun _ ↦ ?_
  · rw [runLength_cons h hc, lift_ok_bind]
    simp only [← beq_iff_eq (a := column)]
    exact pure_extent_after _ [c] _
  refine ite_eq_of_lead (fun hc ↦ ?_) fun _ ↦ ?_
  · rw [runLength_cons h (by rw [hc]; decide), lift_ok_bind]
    exact pure_extent_after _ [c] _
  refine ite_eq_of_lead (fun hc ↦ ?_) fun _ ↦ ?_
  · rw [runLength_cons h (by rw [hc.1]; decide), lift_ok_bind]
    exact pure_extent_after _ [c] _
  refine ite_eq_of_lead (fun hc ↦ ?_) fun _ ↦ ?_
  · obtain ⟨rest, rfl⟩ := List.head?_eq_some_iff.mp hc.2
    rw [blockLength_eq h ht, pure_bind]
    exact pure_extent_after _ [c, '*'] _
  refine ite_eq_of_lead (fun hc ↦ ?_) fun _ ↦ ?_
  · rw [nameLength_eq (by omega), htail, pure_bind]
    exact pure_extent_after _ [c] _
  refine ite_eq_of_lead (fun hc ↦ ?_) fun _ ↦ ?_
  · rw [quotedLength_eq (by rw [hc]; decide) h ht, pure_bind]
    exact pure_extent_after _ [c] _
  refine ite_eq_of_lead (fun hc ↦ ?_) fun _ ↦ ?_
  · subst hc
    exact doubleQuoted_eq h ht
  refine ite_eq_of_lead (fun hc ↦ ?_) fun _ ↦ ?_
  · rw [runLength_cons h (by rw [isAlphanumeric_of_isDigit hc]; rfl), lift_ok_bind]
    exact pure_extent_after _ [c] _
  rw [take_two_beq]
  refine ite_eq_of_lead (fun hc ↦ ?_) fun _ ↦ ?_
  · have hname := name_append (c :: cs)
    rw [← h] at hname
    rw [nameLength_eq ht, pure_bind, stretch_front hname.symm hlt.le, lift_ok_bind, h]
    rfl
  · rw [stretch_all hlt.le, lift_ok_bind, h, find?_operators]
    cases operatorAt (c :: cs) <;> rfl

theorem place_eq {pieces : List Piece} {rest : List Char} (p : Position)
    (h : chars.drop pos = pieces.flatMap Piece.text ++ rest) (hpos : pos ≤ chars.length) :
    place chars pos p (pieces.map extent) =
      pure (ofPieces p pieces, pos + (pieces.flatMap Piece.text).length,
        p.after (pieces.flatMap Piece.text)) := by
  induction pieces generalizing pos p with
  | nil => rfl
  | cons piece pieces ih =>
    rw [List.flatMap_cons, List.append_assoc] at h
    have hlen := congrArg List.length h
    rw [List.length_drop, List.length_append] at hlen
    have hdrop : chars.drop (pos + piece.text.length) = pieces.flatMap Piece.text ++ rest := by
      rw [← List.drop_drop, h, List.drop_left]
    rw [List.map_cons, extent, place, stretch_front h hpos, lift_ok_bind,
      ih (p.after piece.text) hdrop (by omega), pure_bind, List.flatMap_cons, List.length_append,
      Position.after_append, ← Nat.add_assoc]
    rfl

theorem tokenizeFrom_eq (chars : List Char) (p : Position) (cs : List Char) :
    ∀ turns pos, chars.drop pos = cs → chars.length - pos + 1 < turns →
      tokenizeFrom chars turns pos p = pure (Token.tokenizeFrom p cs) := by
  -- The turns that find the ends of pieces come on top of the one that takes the pieces.
  fun_induction Token.tokenizeFrom p cs with
  | case1 p =>
    intro turns pos h ht
    obtain ⟨turns, rfl⟩ := exists_turn ht
    rw [tokenizeFrom, if_neg (Nat.not_lt.mpr (List.drop_eq_nil_iff.mp h))]
  | case2 p c cs step ih =>
    intro turns pos h ht
    obtain ⟨turns, rfl⟩ := exists_turn ht
    have hlt := lt_length_of_drop_eq_cons h
    have hnext := Lexeme.next_append (p.column == 1) c cs
    have hpos : 0 < (step.1.flatMap Piece.text).length := by
      have hlen := congrArg List.length hnext
      have hle : step.2.length ≤ cs.length := Lexeme.length_next_le (p.column == 1) c cs
      rw [List.length_append, List.length_cons] at hlen
      change (step.1.flatMap Piece.text).length + step.2.length = _ at hlen
      omega
    rw [← h] at hnext
    have hdrop : chars.drop (pos + (step.1.flatMap Piece.text).length) = step.2 := by
      rw [← List.drop_drop, ← hnext, List.drop_left]
    rw [tokenizeFrom, if_pos hlt, nextPieces_eq h (by omega), pure_bind,
      place_eq p hnext.symm hlt.le, pure_bind, ih turns _ hdrop (by omega), pure_bind]

end Tokens

theorem join_text (tokens : List Token) :
    String.join (tokens.map Token.text) = String.ofList (written tokens) := by
  apply String.toList_inj.mp
  rw [String.toList_ofList, String.toList_join, List.flatMap_map, written]

/-- Every source is cut into tokens: the search ends as soon as it may take two turns more than the
source has characters, it looks only at what is there and takes only stretches that are there. The
texts of the tokens are the source, and each token carries the line and the column of its first
character. -/
theorem tokenize_exact (source : String) :
    (∀ turns, source.length + 1 < turns →
      (tokenize turns source).run = some (.ok (Token.tokenize source))) ∧
      String.join ((Token.tokenize source).map Token.text) = source ∧
      ∀ front t back, Token.tokenize source = front ++ t :: back →
        let before := written front
        source.toList = before ++ t.text.toList ++ written back ∧
          t.line = UInt64.ofNat (1 + before.count '\n') ∧
          t.column = UInt64.ofNat (1 + (before.rtakeWhile (· != '\n')).length) ∧
          (source.length < 2 ^ 63 → t.line.toNat = 1 + before.count '\n' ∧
            t.column.toNat = 1 + (before.rtakeWhile (· != '\n')).length) := by
  have hwritten := written_tokenize source
  refine ⟨fun turns ht ↦ ?_, ?_, fun front t back h ↦ ?_⟩
  · have hrun := tokenizeFrom_eq source.toList .start source.toList turns 0 rfl
      (by rwa [Nat.sub_zero, String.length_toList])
    rw [tokenize, hrun]
    rfl
  · rw [join_text, hwritten, String.ofList_toList]
  · obtain ⟨hline, hcolumn⟩ := standsAt_of_tokenize h
    rw [h, written_append, written_cons, ← List.append_assoc] at hwritten
    refine ⟨hwritten.symm, hline, hcolumn, fun hlen ↦ ?_⟩
    have hbefore : (written front).length ≤ source.length := by
      rw [← String.length_toList, ← hwritten, List.append_assoc, List.length_append]
      exact Nat.le_add_right _ _
    have hcount := List.count_le_length (a := '\n') (l := written front)
    have htail := ((written front).rtakeWhile_suffix (· != '\n')).length_le
    have hsize : UInt64.size = 2 ^ 64 := rfl
    rw [hline, hcolumn, UInt64.toNat_ofNat_of_lt' (by omega), UInt64.toNat_ofNat_of_lt' (by omega)]
    exact ⟨rfl, rfl⟩

theorem tokenize_exact_second_line :
    let source := "a\n  \"$b\\"
    let front : List Token := [⟨.name, "a", 1, 1⟩, ⟨.newline, "\n", 1, 2⟩, ⟨.indent, "  ", 2, 1⟩,
      ⟨.stringHead, "\"", 2, 3⟩]
    let t : Token := ⟨.bareVariable, "$b", 2, 4⟩
    let back : List Token := [⟨.stringTail, "\\", 2, 6⟩]
    source.length + 1 < 10 ∧ (tokenize 10 source).run = some (.ok (front ++ t :: back)) ∧
      Token.tokenize source = front ++ t :: back ∧ source.length < 2 ^ 63 ∧
      t.line.toNat = 1 + (written front).count '\n' ∧
      t.column.toNat = 1 + ((written front).rtakeWhile (· != '\n')).length := by
  intro source front t back
  obtain ⟨hends, -, hexact⟩ := tokenize_exact source
  have hturns : source.length + 1 < 10 := by decide
  have hlen : source.length < 2 ^ 63 := by decide
  have hrun : (tokenize 10 source).run = some (.ok (front ++ t :: back)) := by decide +kernel
  have h : Token.tokenize source = front ++ t :: back :=
    Except.ok.inj (Option.some.inj ((hends 10 hturns).symm.trans hrun))
  exact ⟨hturns, hrun, h, hlen, (hexact front t back h).2.2.2 hlen⟩

end ManifestLint.Guarded
