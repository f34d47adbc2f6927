import ManifestLint.Lexeme
import Mathlib.Data.List.DropRight

namespace ManifestLint

namespace Position

theorem after_append (p : Position) (cs ds : List Char) :
    p.after (cs ++ ds) = (p.after cs).after ds := List.foldl_append

theorem line_after (p : Position) (cs : List Char) :
    (p.after cs).line = p.line + cs.count '\n' := by
  induction cs generalizing p with
  | nil => rfl
  | cons c cs ih =>
    rw [after, List.foldl_cons, ← after, ih, advance]
    by_cases h : c = '\n'
    · subst h
      rw [if_pos rfl, List.count_cons_self]
      exact Nat.add_right_comm _ _ _
    · rw [if_neg h, List.count_cons_of_ne h]

theorem column_after_start (cs : List Char) :
    (start.after cs).column = 1 + (cs.rtakeWhile (· != '\n')).length := by
  induction cs using List.reverseRecOn with
  | nil => rfl
  | append_singleton cs c ih =>
    rw [after_append, List.rtakeWhile_concat]
    by_cases h : c = '\n'
    · subst h
      rfl
    · have hc : (start.after cs).after [c] = (start.after cs).advance c := rfl
      rw [if_pos (by simpa using h), hc, advance, if_neg h, ih, List.length_append]
      rfl

end Position

namespace Token

def written (tokens : List Token) : List Char := tokens.flatMap fun t ↦ t.text.toList

def StandsAt (p : Position) (t : Token) : Prop :=
  t.line = UInt64.ofNat p.line ∧ t.column = UInt64.ofNat p.column

/-- Every token stands where the one before it ends. -/
def Chained (p : Position) : List Token → Prop
  | [] => True
  | t :: rest => StandsAt p t ∧ Chained (p.after t.text.toList) rest

variable {p : Position}

@[simp]
theorem written_cons (t : Token) (tokens : List Token) :
    written (t :: tokens) = t.text.toList ++ written tokens := List.flatMap_cons

@[simp]
theorem written_append (tokens rest : List Token) :
    written (tokens ++ rest) = written tokens ++ written rest := List.flatMap_append

theorem Chained.append {tokens rest : List Token} (h : Chained p tokens)
    (hrest : Chained (p.after (written tokens)) rest) : Chained p (tokens ++ rest) := by
  induction tokens generalizing p with
  | nil => exact hrest
  | cons t tokens ih =>
    rw [written_cons, Position.after_append] at hrest
    exact ⟨h.1, ih h.2 hrest⟩

theorem Chained.standsAt {front back : List Token} {t : Token}
    (h : Chained p (front ++ t :: back)) : StandsAt (p.after (written front)) t := by
  induction front generalizing p with
  | nil => exact h.1
  | cons u front ih =>
    rw [written_cons, Position.after_append]
    exact ih h.2

theorem written_ofPieces (p : Position) (pieces : List Lexeme.Piece) :
    written (ofPieces p pieces) = pieces.flatMap Lexeme.Piece.text := by
  induction pieces generalizing p with
  | nil => rfl
  | cons piece pieces ih =>
    rw [ofPieces, written_cons, ih, List.flatMap_cons, ofPiece, String.toList_ofList]

theorem chained_ofPieces (p : Position) (pieces : List Lexeme.Piece) :
    Chained p (ofPieces p pieces) := by
  induction pieces generalizing p with
  | nil => trivial
  | cons piece pieces ih =>
    refine ⟨⟨rfl, rfl⟩, ?_⟩
    rw [ofPiece, String.toList_ofList]
    exact ih _

theorem written_tokenizeFrom (p : Position) (cs : List Char) : written (tokenizeFrom p cs) = cs := by
  fun_induction tokenizeFrom p cs with
  | case1 p => rfl
  | case2 p c cs step ih =>
    rw [written_append, written_ofPieces, ih]
    exact Lexeme.next_append _ c cs

theorem chained_tokenizeFrom (p : Position) (cs : List Char) : Chained p (tokenizeFrom p cs) := by
  fun_induction tokenizeFrom p cs with
  | case1 p => trivial
  | case2 p c cs step ih =>
    apply (chained_ofPieces p step.1).append
    rw [written_ofPieces]
    exact ih

theorem written_tokenize (source : String) : written (tokenize source) = source.toList :=
  written_tokenizeFrom _ _

theorem standsAt_of_tokenize {source : String} {front back : List Token} {t : Token}
    (h : tokenize source = front ++ t :: back) :
    t.line = UInt64.ofNat (1 + (written front).count '\n') ∧
      t.column = UInt64.ofNat (1 + ((written front).rtakeWhile (· != '\n')).length) := by
  have hchain := chained_tokenizeFrom .start source.toList
  rw [← tokenize, h] at hchain
  obtain ⟨hline, hcolumn⟩ := hchain.standsAt
  rw [Position.line_after] at hline
  rw [Position.column_after_start] at hcolumn
  exact ⟨hline, hcolumn⟩

end Token

end ManifestLint
