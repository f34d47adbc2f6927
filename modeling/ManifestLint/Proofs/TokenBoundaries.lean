import ManifestLint.Proofs.LexemeCuts

namespace ManifestLint

namespace Position

/-- Two places of which both or none stand at the start of a line. -/
structure Aligned (p q : Position) : Prop where
  pos_left : 0 < p.column
  pos_right : 0 < q.column
  start_iff : p.column = 1 ↔ q.column = 1

variable {p q : Position}

theorem aligned_advance (hp : 0 < p.column) (hq : 0 < q.column) (c : Char) :
    Aligned (p.advance c) (q.advance c) := by
  by_cases hc : c = '\n'
  · rw [advance, advance, if_pos hc, if_pos hc]
    exact ⟨Nat.one_pos, Nat.one_pos, Iff.rfl⟩
  · rw [advance, advance, if_neg hc, if_neg hc]
    refine ⟨Nat.succ_pos _, Nat.succ_pos _, ?_⟩
    dsimp only
    omega

theorem Aligned.after (h : Aligned p q) (cs : List Char) : Aligned (p.after cs) (q.after cs) := by
  induction cs generalizing p q with
  | nil => exact h
  | cons c cs ih => exact ih (aligned_advance h.pos_left h.pos_right c)

theorem aligned_after_cons (hp : 0 < p.column) (hq : 0 < q.column) (c : Char) (cs : List Char) :
    Aligned (p.after (c :: cs)) (q.after (c :: cs)) := (aligned_advance hp hq c).after cs

end Position

namespace Token

open Kind Lexeme Position

def placed (p : Position) (tokens : List Token) : List Token := ofPieces p (tokens.map piece)

/-- The boundary between `front` and `back` lies inside an interpolated string. -/
def InsideString (front back : List Token) : Prop :=
  ∃ before head tail behind, front = before ++ head ∧ back = tail ++ behind ∧
    head ≠ [] ∧ tail ≠ [] ∧ Interpolated ((head ++ tail).map (·.kind))

theorem ofPieces_append (p : Position) (pieces rest : List Piece) :
    ofPieces p (pieces ++ rest) =
      ofPieces p pieces ++ ofPieces (p.after (pieces.flatMap Piece.text)) rest := by
  induction pieces generalizing p with
  | nil => rfl
  | cons first pieces ih =>
    rw [List.cons_append, ofPieces, ofPieces, ih, List.cons_append, List.flatMap_cons, after_append]

/-- Positions apart, the tokens of a source depend on its place by the start of the line only. -/
theorem tokenizeFrom_aligned (p : Position) (cs : List Char) :
    ∀ q, Aligned p q → tokenizeFrom q cs = placed q (tokenizeFrom p cs) := by
  fun_induction tokenizeFrom p cs with
  | case1 p =>
    intro q _
    rw [tokenizeFrom]
    rfl
  | case2 p c cs step ih =>
    intro q h
    have hflag : (q.column == 1) = (p.column == 1) := by
      rw [Bool.eq_iff_iff, beq_iff_eq, beq_iff_eq, h.start_iff]
    rw [tokenizeFrom, hflag, ih _ (h.after _), placed, placed, List.map_append, map_piece_ofPieces,
      ofPieces_append]

def indented (t : Token) : Token := if t.kind = .whitespace then { t with kind := .indent } else t

theorem piece_indented (t : Token) : t.indented.piece = t.piece.indented := by
  rw [indented, Piece.indented, piece, piece]
  split <;> rfl

theorem map_piece_modifyHead (tokens : List Token) :
    (tokens.modifyHead indented).map piece = (tokens.map piece).modifyHead Piece.indented := by
  cases tokens with
  | nil => rfl
  | cons t tokens => simp only [List.modifyHead_cons, List.map_cons, piece_indented]

theorem tokenizeFrom_start {p : Position} (hp : 0 < p.column) (cs : List Char) :
    tokenizeFrom .start cs = placed .start ((tokenizeFrom p cs).modifyHead indented) := by
  cases cs with
  | nil =>
    rw [tokenizeFrom, tokenizeFrom]
    rfl
  | cons c cs =>
    obtain ⟨w, hw, -⟩ := exists_next_eq (p.column == 1) c cs
    have hstart : (start.column == 1) = true := rfl
    have hrest := tokenizeFrom_aligned _ (next (p.column == 1) c cs).2 _
      (aligned_after_cons (q := start) hp Nat.one_pos c w)
    rw [tokenizeFrom, tokenizeFrom, hstart, next_true (p.column == 1), placed, map_piece_modifyHead,
      List.map_append, map_piece_ofPieces]
    generalize next (p.column == 1) c cs = step at hw hrest ⊢
    obtain ⟨_ | ⟨first, pieces⟩, rest⟩ := step
    · cases hw
    · have htext : (first.indented :: pieces).flatMap Piece.text = c :: w := by
        rw [← hw, List.flatMap_cons, Piece.text_indented, List.flatMap_cons]
      rw [List.modifyHead_cons, List.cons_append, List.modifyHead_cons, ← List.cons_append,
        ofPieces_append, htext, hw, hrest, placed]

theorem InsideString.append {front back : List Token} (h : InsideString front back)
    (before : List Token) : InsideString (before ++ front) back := by
  obtain ⟨between, head, tail, behind, rfl, rfl, hkinds⟩ := h
  exact ⟨before ++ between, head, tail, behind, (List.append_assoc _ _ _).symm, rfl, hkinds⟩

theorem exists_append_of_not_insideString {p : Position} {c : Char} {cs : List Char}
    {rest front back : List Token}
    (h : ofPieces p (next (p.column == 1) c cs).1 ++ rest = front ++ back)
    (hout : ¬ InsideString front back) (hfront : front ≠ []) :
    ∃ between, front = ofPieces p (next (p.column == 1) c cs).1 ++ between ∧
      rest = between ++ back := by
  have hgroup := group_ofPieces p c cs
  generalize ofPieces p (next (p.column == 1) c cs).1 = group at h hgroup ⊢
  rcases List.append_eq_append_iff.mp h with ⟨between, hbetween, hrest⟩ | ⟨tail, hgroup', hback⟩
  · exact ⟨between, hbetween, hrest⟩
  by_cases htail : tail = []
  · subst htail
    exact ⟨[], by simpa using hgroup'.symm, by simpa using hback.symm⟩
  cases hgroup with
  | alone hkind htext =>
    have hlen := congrArg List.length hgroup'
    have hfront := List.length_pos_iff.mpr hfront
    have htail := List.length_pos_iff.mpr htail
    rw [List.length_singleton, List.length_append] at hlen
    omega
  | string hkinds hwritten hblank =>
    subst hgroup'
    exact absurd ⟨[], front, tail, rest, rfl, hback, hfront, htail, hkinds⟩ hout

theorem tokenizeFrom_boundary (p : Position) (cs : List Char) :
    ∀ front back, tokenizeFrom p cs = front ++ back → ¬ InsideString front back →
      tokenizeFrom p (written front) = front ∧
        tokenizeFrom (p.after (written front)) (written back) = back := by
  fun_induction tokenizeFrom p cs with
  | case1 p =>
    intro front back h _
    obtain ⟨rfl, rfl⟩ := List.append_eq_nil_iff.mp h.symm
    exact ⟨tokenizeFrom.eq_1 _, tokenizeFrom.eq_1 _⟩
  | case2 p c cs step ih =>
    intro front back h hout
    by_cases hfront : front = []
    · subst hfront
      have hback : tokenizeFrom p (c :: cs) = back := by rwa [tokenizeFrom]
      rw [← hback, written_tokenizeFrom]
      exact ⟨tokenizeFrom.eq_1 p, rfl⟩
    obtain ⟨between, rfl, hrest⟩ := exists_append_of_not_insideString h hout hfront
    obtain ⟨hbetween, hback⟩ := ih between back hrest fun hin ↦ hout (hin.append _)
    obtain ⟨w, hw, hcs⟩ := exists_next_eq (p.column == 1) c cs
    have hleft : written between <+: step.2 := by
      rw [← written_tokenizeFrom (p.after (step.1.flatMap Piece.text)) step.2, hrest, written_append]
      exact List.prefix_append _ _
    have hstep : next (p.column == 1) c (w ++ written between) = (step.1, written between) := by
      have hresumes := next_resumes (p.column == 1) c w hleft (by rw [← hcs])
      rwa [← hcs] at hresumes
    rw [written_append, written_ofPieces, Position.after_append]
    refine ⟨?_, hback⟩
    change step.1.flatMap Piece.text = c :: w at hw
    rw [hw, List.cons_append, tokenizeFrom, hstep]
    dsimp only
    rw [hbetween]

theorem Kind.Continues.mem {kinds : List Kind} (h : Continues kinds) :
    ∀ kind ∈ kinds, kind ∈ stringOnly ∨ kind = .variable := by
  induction h with
  | tail =>
    intro kind hkind
    rw [List.mem_singleton.mp hkind]
    exact .inl (by decide)
  | middle hv _ ih =>
    refine List.forall_mem_cons.mpr ⟨.inl (by decide), List.forall_mem_cons.mpr ⟨?_, ih⟩⟩
    rcases hv with rfl | rfl
    · exact .inr rfl
    · exact .inl (by decide)

theorem not_insideString_of_head? {front back : List Token}
    (h : ∀ t ∈ back.head?, t.kind ∉ stringOnly ∧ t.kind ≠ .variable) :
    ¬ InsideString front back := by
  intro hin
  obtain ⟨before, head, tail, behind, -, rfl, hhead, htail, hkinds⟩ := hin
  obtain ⟨first, head, rfl⟩ := List.exists_cons_of_ne_nil hhead
  obtain ⟨t, tail, rfl⟩ := List.exists_cons_of_ne_nil htail
  obtain ⟨hstring, hvariable⟩ := h t rfl
  have hcontinues : Continues (.stringMiddle :: (head ++ t :: tail).map (·.kind)) := by
    rw [List.cons_append, List.map_cons] at hkinds
    generalize first.kind = kind, (head ++ t :: tail).map (·.kind) = kinds at hkinds ⊢
    cases hkinds with
    | head hv hrest => exact .middle hv hrest
  have hmem : t.kind ∈ (head ++ t :: tail).map (·.kind) :=
    List.mem_map_of_mem (List.mem_append_right _ List.mem_cons_self)
  exact (hcontinues.mem _ (List.mem_cons_of_mem _ hmem)).elim hstring hvariable

/-- The tokens before a boundary outside strings are the tokens of the source before it, and those
behind it the tokens of the source behind it, with positions counted from the boundary on; there a
blank stretch that comes first is an indentation. -/
theorem tokenize_boundary {source : String} {front back : List Token}
    (h : tokenize source = front ++ back) (hout : ¬ InsideString front back) :
    source = String.ofList (written front) ++ String.ofList (written back) ∧
      tokenize (String.ofList (written front)) = front ∧
      tokenize (String.ofList (written back)) = placed .start (back.modifyHead indented) := by
  obtain ⟨hfront, hback⟩ := tokenizeFrom_boundary start source.toList front back h hout
  have hwritten := written_tokenize source
  have hcolumn : 0 < (start.after (written front)).column := by
    rw [column_after_start]
    omega
  refine ⟨?_, ?_, ?_⟩
  · rw [← String.ofList_append, ← written_append, ← h, hwritten, String.ofList_toList]
  · rw [tokenize, String.toList_ofList, hfront]
  · rw [tokenize, String.toList_ofList, tokenizeFrom_start hcolumn, hback]

theorem tokenize_boundary_blank :
    let front : List Token := [⟨.variable, "$a", 1, 1⟩, ⟨.lessThan, "<", 1, 3⟩,
      ⟨.stringHead, "\"b", 1, 4⟩, ⟨.bareVariable, "$c", 1, 6⟩, ⟨.stringTail, "\"", 1, 8⟩]
    let back : List Token := [⟨.whitespace, " ", 1, 9⟩, ⟨.minus, "-", 1, 10⟩,
      ⟨.newline, "\n", 1, 11⟩, ⟨.indent, " ", 2, 1⟩, ⟨.name, "x", 2, 2⟩]
    tokenize "$a<\"b$c\" -\n x" = front ++ back ∧ ¬ InsideString front back ∧
      tokenize "$a<\"b$c\"" = front ∧
      tokenize " -\n x" = [⟨.indent, " ", 1, 1⟩, ⟨.minus, "-", 1, 2⟩, ⟨.newline, "\n", 1, 3⟩,
        ⟨.indent, " ", 2, 1⟩, ⟨.name, "x", 2, 2⟩] := by
  intro front back
  have h : tokenize "$a<\"b$c\" -\n x" = front ++ back := by decide +kernel
  have hout : ¬ InsideString front back := not_insideString_of_head? (by decide)
  obtain ⟨-, hfront, hback⟩ := tokenize_boundary h hout
  exact ⟨h, hout, hfront, hback⟩

end Token

end ManifestLint
