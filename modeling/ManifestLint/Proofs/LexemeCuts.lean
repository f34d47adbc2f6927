import ManifestLint.Proofs.LexemeSteps
import ManifestLint.Proofs.StringPieces

namespace ManifestLint

namespace Lexeme

open Text

/-- A way to cut off a stretch that finds the same stretch again when less of the rest follows. -/
structure Local (f : List Char → Cut) : Prop where
  append : ∀ cs, (f cs).1 ++ (f cs).2 = cs
  again : ∀ cs rest, rest <+: (f cs).2 → f ((f cs).1 ++ rest) = ((f cs).1, rest)

theorem exists_cons_of_isPrefix {d : Char} {ds cs : List Char} (h : d :: ds <+: cs) :
    ∃ es, cs = d :: es := by
  obtain ⟨tail, rfl⟩ := h
  exact ⟨_, rfl⟩

theorem append_isPrefix {s : Cut} {cs rest : List Char} (h : s.1 ++ s.2 = cs)
    (hrest : rest <+: s.2) : s.1 ++ rest <+: cs := by
  rw [← h]
  exact (List.prefix_append_right_inj s.1).mpr hrest

theorem local_nil : Local fun cs ↦ ([], cs) := ⟨fun _ ↦ rfl, fun _ _ _ ↦ rfl⟩

theorem local_run (p : Char → Bool) : Local (run p) := by
  refine ⟨run_append p, fun cs rest hrest ↦ ?_⟩
  have hall : ∀ c ∈ cs.takeWhile p, p c = true := fun c hc ↦ List.mem_takeWhile_imp hc
  have hstop : rest.takeWhile p = [] ∧ rest.dropWhile p = rest := by
    cases rest with
    | nil => exact ⟨rfl, rfl⟩
    | cons d ds =>
      obtain ⟨es, hes⟩ := exists_cons_of_isPrefix hrest
      have hd : ¬ p d = true := by
        have hhead := List.head?_dropWhile_not p cs
        simp_all [run]
      exact ⟨List.takeWhile_cons_of_neg hd, List.dropWhile_cons_of_neg hd⟩
  simp only [run, List.takeWhile_append_of_pos hall, List.dropWhile_append_of_pos hall, hstop,
    List.append_nil]

theorem local_name : Local name := by
  refine ⟨name_append, fun cs rest hrest ↦ ?_⟩
  fun_induction name cs with
  | case1 cs ih =>
    have h := ih hrest
    simp only [Cut.after, List.cons_append, List.nil_append, name, h]
  | case2 c cs hne hc ih =>
    have h := ih hrest
    simp only [Cut.after, List.cons_append, List.nil_append, name_cons_of_isNameChar hc, h]
  | case3 c cs hne hc =>
    cases rest with
    | nil => rfl
    | cons d ds =>
      obtain ⟨tail, htail⟩ := hrest
      obtain ⟨rfl, rfl⟩ := List.cons.inj htail
      refine name_cons_of_not_isNameChar hc fun hcolon hhead ↦ ?_
      obtain ⟨es, rfl⟩ := List.head?_eq_some_iff.mp hhead
      exact hne _ hcolon rfl
  | case4 =>
    rw [List.prefix_nil.mp hrest]
    rfl

theorem local_quoted (quote : Char) : Local (quoted quote) := by
  refine ⟨quoted_append quote, fun cs rest hrest ↦ ?_⟩
  fun_induction quoted quote cs with
  | case1 c cs ih =>
    have h := ih hrest
    simp only [Cut.after, List.cons_append, List.nil_append, quoted, h]
  | case2 cs hne =>
    have hescape : ∀ d ds, quote = '\\' → rest = d :: ds → False := by
      intro d ds hquote hds
      subst hds
      obtain ⟨es, hes⟩ := exists_cons_of_isPrefix hrest
      exact hne d es hquote hes
    rw [List.cons_append, List.nil_append, quoted.eq_2 _ _ _ hescape, if_pos rfl]
  | case3 c cs hne hc ih =>
    have h := ih hrest
    have hshort := append_isPrefix (quoted_append quote cs) hrest
    -- a backslash without a character behind it is the last of the source
    have hescape : ∀ d ds, c = '\\' → (quoted quote cs).1 ++ rest = d :: ds → False := by
      intro d ds hback hds
      rw [hds] at hshort
      obtain ⟨es, hes⟩ := exists_cons_of_isPrefix hshort
      exact hne d es hback hes
    simp only [Cut.after, List.cons_append, List.nil_append, quoted.eq_2 _ _ _ hescape, if_neg hc, h]
  | case4 =>
    rw [List.prefix_nil.mp hrest]
    rfl

theorem local_block : Local block := by
  refine ⟨block_append, fun cs rest hrest ↦ ?_⟩
  fun_induction block cs with
  | case1 cs => rfl
  | case2 c cs hne ih =>
    have h := ih hrest
    have hshort := append_isPrefix (block_append cs) hrest
    have hend : ∀ ds, c = '*' → (block cs).1 ++ rest = '/' :: ds → False := by
      intro ds hstar hds
      rw [hds] at hshort
      obtain ⟨es, hes⟩ := exists_cons_of_isPrefix hshort
      exact hne es hstar hes
    simp only [Cut.after, List.cons_append, List.nil_append, block.eq_2 _ _ hend, h]
  | case3 =>
    rw [List.prefix_nil.mp hrest]
    rfl

section Resumes

variable {r rest w : List Char} {c : Char}

theorem Local.resumes {f : List Char → Cut} (h : Local f) (hrest : rest <+: r)
    (hleft : (f (w ++ r)).2 = r) (front : List Char) :
    (f (w ++ rest)).after front = (((f (w ++ r)).after front).1, rest) := by
  have happend := h.append (w ++ r)
  have hagain := h.again (w ++ r) rest (by rwa [hleft])
  rw [hleft] at happend
  have hw := List.append_cancel_right happend
  rw [hw] at hagain
  rw [hagain, Cut.after, Cut.after, hw]

theorem operatorAt_of_isPrefix {cs ds : List Char} {op : List Char × Token.Kind}
    (h : operatorAt cs = some op) (hds : ds <+: cs) (hop : op.1 <+: ds) :
    operatorAt ds = some op := by
  obtain ⟨-, before, after, hsplit, hbefore⟩ := List.find?_eq_some_iff_append.mp h
  refine List.find?_eq_some_iff_append.mpr
    ⟨List.isPrefixOf_iff_prefix.mpr hop, before, after, hsplit, fun other hother ↦ ?_⟩
  have hnot := hbefore other hother
  simp only [Bool.not_eq_true', Bool.eq_false_iff, ne_eq, List.isPrefixOf_iff_prefix] at hnot ⊢
  exact fun hpre ↦ hnot (hpre.trans hds)

theorem operatorAt_eq_none_of_isPrefix {cs ds : List Char} (h : operatorAt cs = none)
    (hds : ds <+: cs) : operatorAt ds = none := by
  rw [operatorAt, List.find?_eq_none] at h ⊢
  intro op hop hpre
  rw [List.isPrefixOf_iff_prefix] at hpre
  exact h op hop (List.isPrefixOf_iff_prefix.mpr (hpre.trans hds))

theorem ne_nil_of_slashComment (hslash : (w ++ r).head? = some '/')
    (hleft : (run (· != '\n') (w ++ r)).2 = r) : w ≠ [] := by
  intro hw
  subst hw
  obtain ⟨ds, rfl⟩ := List.head?_eq_some_iff.mp hslash
  have happend := run_append (· != '\n') ('/' :: ds)
  rw [List.nil_append] at hleft
  rw [hleft, List.append_left_eq_self, run, List.takeWhile_cons_of_pos (by decide)] at happend
  cases happend

theorem ne_nil_of_blockComment (hstar : (w ++ r).head? = some '*')
    (hleft : (block (w ++ r).tail).2 = r) : w ≠ [] := by
  intro hw
  subst hw
  obtain ⟨ds, rfl⟩ := List.head?_eq_some_iff.mp hstar
  have hle := length_le_of_append (block_append ds)
  rw [List.nil_append, List.tail_cons] at hleft
  rw [hleft, List.length_cons] at hle
  omega

theorem ne_nil_of_colons (hcolon : (w ++ r).head? = some ':')
    (hleft : (name (':' :: (w ++ r))).2 = r) : w ≠ [] := by
  intro hw
  subst hw
  obtain ⟨ds, rfl⟩ := List.head?_eq_some_iff.mp hcolon
  have hle := length_le_of_append (name_append ds)
  rw [List.nil_append, name, Cut.after] at hleft
  rw [hleft, List.length_cons] at hle
  omega

/-- Where the rest of a source is cut down from `r`, what used to leave `r` still stands first. -/
def Stays (c : Char) (cs r : List Char) (l m : Lead) : Prop := (l.cut c cs).2 = r → m = l

theorem stays_ite {p q : Prop} [Decidable p] [Decidable q] {cs : List Char} {l m m' : Lead}
    (hqp : q → p) (hpq : p → (l.cut c cs).2 = r → q) (hm : ¬ p → Stays c cs r m m') :
    Stays c cs r (if p then l else m) (if q then l else m') := by
  by_cases hp : p
  · rw [if_pos hp]
    intro hleft
    rw [if_pos (hpq hp hleft)]
  · rw [if_neg hp, if_neg fun hq ↦ hp (hqp hq)]
    exact hm hp

theorem stays_ite_self {p : Prop} [Decidable p] {cs : List Char} {l m m' : Lead}
    (hm : ¬ p → Stays c cs r m m') : Stays c cs r (if p then l else m) (if p then l else m') :=
  stays_ite id (fun hp _ ↦ hp) hm

theorem lead_stays (c : Char) (w : List Char) (hrest : rest <+: r) :
    Stays c (w ++ r) r (lead c (w ++ r)) (lead c (w ++ rest)) := by
  have hcut : w ++ rest <+: w ++ r := (List.prefix_append_right_inj w).mpr hrest
  have hless {d : Char} (h : (w ++ rest).head? = some d) : (w ++ r).head? = some d := by
    obtain ⟨ds, hds⟩ := List.head?_eq_some_iff.mp h
    rw [hds] at hcut
    obtain ⟨es, hes⟩ := exists_cons_of_isPrefix hcut
    rw [hes, List.head?_cons]
  have hmore {d : Char} (h : (w ++ r).head? = some d) (hw : w ≠ []) :
      (w ++ rest).head? = some d := by
    rwa [List.head?_append_of_ne_nil _ hw] at h ⊢
  unfold lead
  refine stays_ite_self fun _ ↦ ?_
  refine stays_ite_self fun _ ↦ ?_
  refine stays_ite_self fun _ ↦ ?_
  refine stays_ite (.imp_right hless)
    (fun h hleft ↦ ⟨h.1, hmore h.2 (ne_nil_of_slashComment h.2 hleft)⟩) fun _ ↦ ?_
  refine stays_ite (.imp_right hless)
    (fun h hleft ↦ ⟨h.1, hmore h.2 (ne_nil_of_blockComment h.2 hleft)⟩) fun _ ↦ ?_
  refine stays_ite_self fun _ ↦ ?_
  refine stays_ite_self fun _ ↦ ?_
  refine stays_ite_self fun _ ↦ ?_
  refine stays_ite_self fun _ ↦ ?_
  simp only [Bool.or_eq_true, Bool.and_eq_true, beq_iff_eq]
  refine stays_ite (.imp_right (.imp_right hless)) (fun h hleft ↦ ?_) fun _ ↦ ?_
  · refine h.imp_right fun h ↦ ⟨h.1, hmore h.2 ?_⟩
    rw [Lead.cut, h.1] at hleft
    exact ne_nil_of_colons h.2 hleft
  · have hcut : c :: (w ++ rest) <+: c :: (w ++ r) := (List.prefix_cons_inj c).mpr hcut
    intro hleft
    cases hop : operatorAt (c :: (w ++ r)) with
    | none => rw [operatorAt_eq_none_of_isPrefix hop hcut]
    | some op =>
      have hword : op.1 = c :: w := by
        have happend := append_of_operatorAt hop
        rw [hop] at hleft
        change (c :: (w ++ r)).drop op.1.length = r at hleft
        rw [hleft] at happend
        exact List.append_cancel_right happend
      rw [operatorAt_of_isPrefix hop hcut (by rw [hword]; exact List.prefix_append _ _)]

theorem Lead.cut_resumes {l : Lead} (h : l.Fits c (w ++ r)) (hrest : rest <+: r)
    (hleft : (l.cut c (w ++ r)).2 = r) :
    l.cut c (w ++ rest) = ((l.cut c (w ++ r)).1, rest) := by
  cases l with
  | newline | other => exact local_nil.resumes hrest hleft [c]
  | blank | comment | slashComment | number => exact (local_run _).resumes hrest hleft [c]
  | blockComment =>
    obtain ⟨d, ds, rfl⟩ := List.exists_cons_of_ne_nil (ne_nil_of_blockComment h hleft)
    exact local_block.resumes hrest hleft [c, '*']
  | sigil => exact local_name.resumes hrest hleft [c]
  | singleQuoted | doubleQuoted => exact (local_quoted c).resumes hrest hleft [c]
  | word => exact local_name.resumes (w := c :: w) hrest hleft []
  | operator op =>
    have happend := append_of_operatorAt h
    change (c :: (w ++ r)).drop op.1.length = r at hleft
    rw [hleft, ← List.cons_append] at happend
    rw [cut, cut, List.append_cancel_right happend, ← List.cons_append, List.drop_left]

/-- What stands first in a source is taken again when any part of the rest is cut off. -/
theorem next_resumes (lineStart : Bool) (c : Char) (w : List Char) (hrest : rest <+: r)
    (hleft : (next lineStart c (w ++ r)).2 = r) :
    next lineStart c (w ++ rest) = ((next lineStart c (w ++ r)).1, rest) := by
  rw [next, lead_stays c w hrest hleft, Lead.cut_resumes (Lead.fits_lead c _) hrest hleft]
  rfl

end Resumes

def Piece.indented (piece : Piece) : Piece :=
  if piece.kind = .whitespace then ⟨.indent, piece.text⟩ else piece

theorem Piece.text_indented (piece : Piece) : piece.indented.text = piece.text := by
  rw [indented]
  split <;> rfl

theorem wordKind_ne_whitespace (word : List Char) : wordKind word ≠ .whitespace := by
  have hkinds : .whitespace ∉ wordKinds := by decide
  exact fun h ↦ hkinds (h ▸ wordKind_mem word)

theorem ne_whitespace_of_operatorAt {cs : List Char} {op : List Char × Token.Kind}
    (h : operatorAt cs = some op) : op.2 ≠ .whitespace := by
  have hoperators : ∀ op ∈ operators, op.2 ≠ .whitespace := by decide
  exact hoperators op (List.mem_of_find?_eq_some h)

theorem modifyHead_interpolated (lead cs : List Char) :
    (interpolated true lead cs).modifyHead Piece.indented = interpolated true lead cs := by
  rw [interpolated]
  split <;> rfl

theorem Lead.pieces_true {c : Char} {cs : List Char} {l : Lead} (h : l.Fits c cs)
    (lineStart : Bool) (text : List Char) :
    l.pieces true text = (l.pieces lineStart text).modifyHead Piece.indented := by
  have hkeeps {kind : Token.Kind} (hkind : kind ≠ .whitespace) :
      [⟨kind, text⟩] = [(⟨kind, text⟩ : Piece)].modifyHead Piece.indented := by
    rw [List.modifyHead_cons, Piece.indented, if_neg hkind]
  cases l with
  | blank => cases lineStart <;> rfl
  | doubleQuoted => exact (modifyHead_interpolated _ _).symm
  | word => exact hkeeps (wordKind_ne_whitespace text)
  | operator op => exact hkeeps (ne_whitespace_of_operatorAt h)
  | _ => rfl

/-- Whether a line starts where the source stands shows in a blank stretch only. -/
theorem next_true (lineStart : Bool) (c : Char) (cs : List Char) :
    next true c cs =
      ((next lineStart c cs).1.modifyHead Piece.indented, (next lineStart c cs).2) := by
  rw [next, next, Lead.pieces_true (Lead.fits_lead c cs) lineStart]

theorem exists_next_eq (lineStart : Bool) (c : Char) (cs : List Char) :
    ∃ w, (next lineStart c cs).1.flatMap Piece.text = c :: w ∧ cs = w ++ (next lineStart c cs).2 := by
  have happend := next_append lineStart c cs
  obtain ⟨d, w, hw⟩ := List.exists_cons_of_ne_nil (flatMap_text_next_ne_nil lineStart c cs)
  rw [hw, List.cons_append] at happend
  obtain ⟨rfl, hcs⟩ := List.cons.inj happend
  exact ⟨w, hw, hcs.symm⟩

end Lexeme

end ManifestLint
