import ManifestLint.Lexeme
import Mathlib.Tactic.Common

namespace ManifestLint.Lexeme

open Text

theorem length_after (front : List Char) (s : Cut) :
    (s.after front).1.length = front.length + s.1.length := List.length_append

theorem name_cons_of_isNameChar {c : Char} (h : isNameChar c = true) (cs : List Char) :
    name (c :: cs) = (name cs).after [c] := by
  have hne : ∀ ds, c = ':' → cs = ':' :: ds → False := by
    rintro ds rfl _
    exact absurd h (by decide)
  rw [name.eq_2 c cs hne, if_pos h]

theorem name_cons_of_not_isNameChar {c : Char} {cs : List Char} (h : ¬ isNameChar c = true)
    (hne : c = ':' → cs.head? ≠ some ':') : name (c :: cs) = ([], c :: cs) := by
  have hne : ∀ ds, c = ':' → cs = ':' :: ds → False := by
    rintro ds hc rfl
    exact hne hc rfl
  rw [name.eq_2 c cs hne, if_neg h]

theorem name_quote (cs ds : List Char) : (name (cs ++ '"' :: ds)).1 = (name (cs ++ ['"'])).1 := by
  have hquote : ¬ isNameChar '"' = true := by decide
  fun_induction name cs with
  | case1 cs ih => simp only [List.cons_append, name, Cut.after, ih]
  | case2 c cs hne hc ih =>
    simp only [List.cons_append, name_cons_of_isNameChar hc, Cut.after, ih]
  | case3 c cs hne hc =>
    have hcolon (es : List Char) : c = ':' → (cs ++ '"' :: es).head? ≠ some ':' := by
      intro heq
      cases cs with
      | nil => exact fun h ↦ absurd (Option.some.inj h) (by decide)
      | cons d rest =>
        intro h
        exact hne rest heq (by rw [Option.some.inj h])
    rw [List.cons_append, List.cons_append, name_cons_of_not_isNameChar hc (hcolon ds),
      name_cons_of_not_isNameChar hc (hcolon [])]
  | case4 =>
    have hcolon : '"' ≠ ':' := by decide
    rw [List.nil_append, List.nil_append,
      name_cons_of_not_isNameChar hquote (fun h ↦ absurd h hcolon),
      name_cons_of_not_isNameChar hquote (fun h ↦ absurd h hcolon)]

theorem quoted_getLast? (quote : Char) (cs : List Char) :
    (quoted quote cs).2 = [] ∨ (quoted quote cs).1.getLast? = some quote := by
  have hafter (front : List Char) {s : Cut} (h : s.2 = [] ∨ s.1.getLast? = some quote) :
      (s.after front).2 = [] ∨ (s.after front).1.getLast? = some quote :=
    h.imp_right fun h ↦ by rw [Cut.after, List.getLast?_append, h]; rfl
  fun_induction quoted quote cs with
  | case1 c cs ih => exact hafter _ ih
  | case2 cs hne => exact Or.inr rfl
  | case3 c cs hne hc ih => exact hafter _ ih
  | case4 => exact Or.inl rfl

theorem literal_cons {c : Char} {cs : List Char} (hb : c ≠ '\\')
    (hd : c = '$' → ∀ d ∈ cs.head?, opensInterpolation d = false) :
    literal (c :: cs) = (literal cs).after [c] := by
  by_cases hc : c = '$'
  · subst hc
    cases cs with
    | nil => rfl
    | cons d ds =>
      have hno : opensInterpolation d = false := hd rfl d rfl
      rw [literal, if_neg (by simp [hno])]
  · exact literal.eq_3 c cs (fun d ds hc' _ ↦ hb hc') (fun d ds hc' _ ↦ hc hc')

theorem interpolated_append_front (first : Bool) (lead front rest : List Char)
    (h : literal (front ++ rest) = (literal rest).after front) :
    interpolated first lead (front ++ rest) =
      interpolated first (lead ++ front) rest := by
  rw [interpolated, interpolated]
  generalize literal (front ++ rest) = s at h ⊢
  subst h
  simp only [Cut.after, List.append_assoc]

theorem interpolated_braces (first : Bool) (lead rest : List Char) :
    interpolated first lead ('$' :: '{' :: rest) =
      ⟨if first then .stringHead else .stringMiddle, lead ++ ['$', '{']⟩ ::
        ⟨.variable, (run (· != '}') rest).1⟩ ::
        interpolated false ((run (· != '}') rest).2.take 1)
          ((run (· != '}') rest).2.drop 1) := by
  have hl : literal ('$' :: '{' :: rest) = ([], '$' :: '{' :: rest) := by
    rw [literal, if_pos (by decide)]
  rw [interpolated]
  generalize literal ('$' :: '{' :: rest) = s at hl ⊢
  subst hl
  simp only [List.append_nil]

theorem interpolated_bare (first : Bool) (lead rest : List Char) {c : Char}
    (h : isAlphabetic c || c == '_') (hc : c ≠ '{') :
    interpolated first lead ('$' :: c :: rest) =
      ⟨if first then .stringHead else .stringMiddle, lead⟩ ::
        ⟨.bareVariable, '$' :: (name (c :: rest)).1⟩ ::
        interpolated false [] (name (c :: rest)).2 := by
  have hl : literal ('$' :: c :: rest) = ([], '$' :: c :: rest) := by
    rw [literal, if_pos (by simp_all [opensInterpolation])]
  rw [interpolated]
  generalize literal ('$' :: c :: rest) = s at hl ⊢
  subst hl
  simp only [List.append_nil]
  split
  · rename_i heq
    cases heq
  · rename_i heq
    simp only [List.cons.injEq] at heq
    exact (hc heq.2.1).elim
  · rename_i heq
    obtain ⟨rfl, rfl⟩ := List.cons.inj heq
    rfl

end ManifestLint.Lexeme
