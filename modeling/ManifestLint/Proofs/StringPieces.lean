import ManifestLint.Proofs.Positions

namespace ManifestLint

namespace Token.Kind

def stringOnly : List Kind := [.stringHead, .stringMiddle, .stringTail, .bareVariable]

/-- Kinds of tokens that may have no text: a stretch between two names, what is left behind the last
name, and a name in braces. -/
def blankable : List Kind := [.stringMiddle, .stringTail, .variable]

def Interpolates (k : Kind) : Prop := k = .variable ∨ k = .bareVariable

/-- What follows a name in a string: stretches with a name behind each, and a last stretch. -/
inductive Continues : List Kind → Prop
  | tail : Continues [.stringTail]
  | middle {v : Kind} {rest : List Kind} (hv : v.Interpolates) (hrest : Continues rest) :
    Continues (.stringMiddle :: v :: rest)

inductive Interpolated : List Kind → Prop
  | head {v : Kind} {rest : List Kind} (hv : v.Interpolates) (hrest : Continues rest) :
    Interpolated (.stringHead :: v :: rest)

end Token.Kind

namespace Lexeme

open Token.Kind

/-- The pieces that stand first in the source `c :: cs`: one piece, or those of a string literal with
a name in it. -/
def Grouped (c : Char) (cs : List Char) (pieces : List Piece) : Prop :=
  (∃ piece, pieces = [piece] ∧ piece.kind ∉ stringOnly) ∨
    c = '"' ∧ pieces = interpolated true [c] (quoted c cs).1 ∧
      Interpolated (pieces.map (·.kind))

theorem continues_interpolated (lead cs : List Char) :
    Continues ((interpolated false lead cs).map (·.kind)) := by
  generalize hfirst : false = first
  fun_induction interpolated first lead cs with
  | case1 first lead cs h =>
    subst hfirst
    exact .tail
  | case2 first lead cs head rest h inner ih =>
    subst hfirst
    exact .middle (.inl rfl) (ih rfl)
  | case3 first lead cs head sigil rest hne h bare ih =>
    subst hfirst
    exact .middle (.inr rfl) (ih rfl)

theorem interpolated_literal (lead cs : List Char) :
    interpolated true lead cs = [⟨.string, lead ++ cs⟩] ∨
      Interpolated ((interpolated true lead cs).map (·.kind)) := by
  have happend := interpolated_append true lead cs
  revert happend
  rw [interpolated]
  split
  · intro happend
    simp_all
  · exact fun _ ↦ .inr (.head (.inl rfl) (continues_interpolated _ _))
  · exact fun _ ↦ .inr (.head (.inr rfl) (continues_interpolated _ _))

theorem mem_blankable_of_interpolated {first : Bool} {lead cs : List Char}
    (hlead : first = true → lead ≠ []) {piece : Piece} (hpiece : piece ∈ interpolated first lead cs)
    (hempty : piece.text = []) : piece.kind ∈ blankable := by
  fun_induction interpolated first lead cs with
  | case1 first lead cs h =>
    cases first with
    | true => simp_all
    | false => simp_all [blankable]
  | case2 first lead cs head rest h inner ih =>
    rcases List.mem_cons.mp hpiece with rfl | hpiece
    · simp at hempty
    rcases List.mem_cons.mp hpiece with rfl | hpiece
    · exact .tail _ (.tail _ (.head _))
    · exact ih Bool.noConfusion hpiece
  | case3 first lead cs head sigil rest hne h bare ih =>
    rcases List.mem_cons.mp hpiece with rfl | hpiece
    · cases first with
      | true => simp_all
      | false => exact .head _
    rcases List.mem_cons.mp hpiece with rfl | hpiece
    · cases hempty
    · exact ih Bool.noConfusion hpiece

def wordKinds : List Token.Kind := .classRef :: .name :: keywords.map (·.2)

theorem wordKind_mem (word : List Char) : wordKind word ∈ wordKinds := by
  rw [wordKind]
  split
  · rename_i k hk
    have hmem := List.mem_map_of_mem (f := (·.2)) (List.mem_of_find?_eq_some hk)
    exact List.mem_cons_of_mem _ (List.mem_cons_of_mem _ hmem)
  · split <;> decide

theorem wordKind_not_mem_stringOnly (word : List Char) : wordKind word ∉ stringOnly := by
  have hkinds : ∀ kind ∈ wordKinds, kind ∉ stringOnly := by decide
  exact hkinds _ (wordKind_mem word)

theorem not_mem_stringOnly_of_operatorAt {cs : List Char} {op : List Char × Token.Kind}
    (h : operatorAt cs = some op) : op.2 ∉ stringOnly := by
  have hoperators : ∀ op ∈ operators, op.2 ∉ stringOnly := by decide
  exact hoperators op (List.mem_of_find?_eq_some h)

theorem flatMap_text_next_ne_nil (lineStart : Bool) (c : Char) (cs : List Char) :
    (next lineStart c cs).1.flatMap Piece.text ≠ [] := by
  intro hnil
  have happend := next_append lineStart c cs
  have hle := length_next_le lineStart c cs
  rw [hnil, List.nil_append] at happend
  rw [happend, List.length_cons] at hle
  omega

theorem Lead.kind_not_mem_stringOnly {c : Char} {cs : List Char} {l : Lead} (h : l.Fits c cs)
    (lineStart : Bool) (text : List Char) : l.kind lineStart text ∉ stringOnly := by
  cases l with
  | blank => cases lineStart <;> simp [kind, stringOnly]
  | word => exact wordKind_not_mem_stringOnly text
  | operator op => exact not_mem_stringOnly_of_operatorAt h
  | _ => simp [kind, stringOnly]

theorem next_grouped (lineStart : Bool) (c : Char) (cs : List Char) :
    Grouped c cs (next lineStart c cs).1 := by
  have hfits := Lead.fits_lead c cs
  rw [next]
  generalize lead c cs = l at hfits ⊢
  have hkind := Lead.kind_not_mem_stringOnly hfits lineStart (l.cut c cs).1
  cases l with
  | doubleQuoted =>
    rcases interpolated_literal [c] (quoted c cs).1 with hwhole | hkinds
    · exact .inl ⟨_, hwhole, by simp [stringOnly]⟩
    · exact .inr ⟨hfits, rfl, hkinds⟩
  | _ => exact .inl ⟨_, rfl, hkind⟩

end Lexeme

namespace Token

open Kind Lexeme

def piece (t : Token) : Piece := ⟨t.kind, t.text.toList⟩

/-- The tokens that stand first in a source: one token, or those of an interpolated string. -/
inductive Group : List Char → List Token → Prop
  | alone {source : List Char} {t : Token} (hkind : t.kind ∉ stringOnly) (htext : t.text ≠ "") :
    Group source [t]
  | string {rest : List Char} {group : List Token}
    (hkinds : Interpolated (group.map (·.kind)))
    (hwritten : written group = '"' :: (quoted '"' rest).1)
    (hblank : ∀ t ∈ group, t.text = "" → t.kind ∈ blankable) : Group ('"' :: rest) group

theorem map_piece_ofPieces (p : Position) (pieces : List Piece) :
    (ofPieces p pieces).map piece = pieces := by
  induction pieces generalizing p with
  | nil => rfl
  | cons first rest ih =>
    rw [ofPieces, List.map_cons, ih, piece, ofPiece, String.toList_ofList]

theorem group_ofPieces (p : Position) (c : Char) (cs : List Char) :
    Group (c :: cs) (ofPieces p (next (p.column == 1) c cs).1) := by
  rcases next_grouped (p.column == 1) c cs with ⟨first, hfirst, hkind⟩ | ⟨rfl, hpieces, hkinds⟩
  · -- a step takes at least one character, and here one token has all that it takes
    have htext := flatMap_text_next_ne_nil (p.column == 1) c cs
    rw [hfirst, List.flatMap_singleton] at htext
    rw [hfirst]
    exact .alone hkind fun hempty ↦ htext (String.ofList_eq_empty_iff.mp hempty)
  · have hmap := map_piece_ofPieces p (next (p.column == 1) '"' cs).1
    refine .string ?_ ?_ fun t ht hempty ↦ ?_
    · rw [← hmap, List.map_map] at hkinds
      exact hkinds
    · rw [written_ofPieces, hpieces, interpolated_append]
      rfl
    · have hpiece := List.mem_map_of_mem (f := piece) ht
      rw [hmap, hpieces] at hpiece
      have htext : t.piece.text = [] := by rw [piece, hempty, String.toList_empty]
      exact mem_blankable_of_interpolated (fun _ ↦ List.cons_ne_nil _ _) hpiece htext

theorem exists_groups (p : Position) (cs : List Char) :
    ∃ groups : List (List Token), tokenizeFrom p cs = groups.flatten ∧
      ∀ front group back, groups = front ++ group :: back →
        ∃ rest, cs = written front.flatten ++ rest ∧ Group rest group := by
  fun_induction tokenizeFrom p cs with
  | case1 p => exact ⟨[], rfl, fun front group back h ↦ by simp at h⟩
  | case2 p c cs step ih =>
    obtain ⟨groups, hgroups, hgroup⟩ := ih
    refine ⟨ofPieces p step.1 :: groups, by rw [hgroups, List.flatten_cons], ?_⟩
    intro front group back h
    cases front with
    | nil =>
      obtain ⟨rfl, rfl⟩ := List.cons.inj h
      exact ⟨c :: cs, rfl, group_ofPieces p c cs⟩
    | cons first front =>
      rw [List.cons_append] at h
      obtain ⟨rfl, hback⟩ := List.cons.inj h
      obtain ⟨rest, hrest, hgroup⟩ := hgroup front group back hback
      refine ⟨rest, ?_, hgroup⟩
      rw [List.flatten_cons, written_append, written_ofPieces, List.append_assoc, ← hrest]
      exact (next_append _ c cs).symm

/-- The tokens of a source come in groups: tokens by themselves, which have a text, and interpolated
strings. The tokens of a string are a head, a name, any number of middles with a name behind each,
and a tail; together they are the literal that begins where the head begins. Of all tokens only
middles, tails and variables in strings may have no text, and all three of them do. -/
theorem tokenize_grouped :
    (∀ source : String, ∃ groups : List (List Token), tokenize source = groups.flatten ∧
      ∀ front group back, groups = front ++ group :: back →
        ∃ rest, source.toList = written front.flatten ++ rest ∧ Group rest group) ∧
    ∀ kind ∈ blankable, ∃ source, ∃ t ∈ tokenize source, t.kind = kind ∧ t.text = "" := by
  refine ⟨fun source ↦ exists_groups .start source.toList, fun kind hkind ↦ ?_⟩
  have hempty : ∀ kind ∈ blankable,
      ∃ t ∈ tokenize "\"$a$b$\x7b\x7d$\x7b\"", t.kind = kind ∧ t.text = "" := by decide +kernel
  exact ⟨_, hempty kind hkind⟩

end Token

end ManifestLint
