import ManifestLint.Text.Pieces
import Mathlib.Data.List.Basic

namespace ManifestLint.Text

theorem segments_cons {c : Char} {cs : List Char} (h : c = ':' → cs.head? ≠ some ':') :
    segments (c :: cs) = (segments cs).modifyHead (c :: ·) := by
  rw [segments]
  · cases hs : segments cs with
    | nil => exact absurd hs (segments_ne_nil cs)
    | cons first rest => rfl
  · rintro rest rfl rfl
    exact h rfl rfl

theorem intercalate_segments (cs : List Char) : [':', ':'].intercalate (segments cs) = cs := by
  fun_induction segments cs with
  | case1 cs ih =>
    rw [List.intercalate_cons_of_ne_nil (segments_ne_nil cs), ih]
    rfl
  | case2 c cs _ first rest hs ih => rw [List.intercalate_cons_cons_left, ← hs, ih]
  | case3 c cs _ hs => exact absurd hs (segments_ne_nil cs)
  | case4 => rfl

theorem segments_inj {cs ds : List Char} (h : segments cs = segments ds) : cs = ds := by
  rw [← intercalate_segments cs, h, intercalate_segments]

theorem mem_of_mem_segments {x : Char} {cs s : List Char} (hs : s ∈ segments cs) (hx : x ∈ s) :
    x ∈ cs := by
  rw [← intercalate_segments cs]
  generalize segments cs = l at hs ⊢
  induction l with
  | nil => exact absurd hs List.not_mem_nil
  | cons first rest ih =>
    rcases List.mem_cons.mp hs with rfl | hs
    · cases rest with
      | nil => rwa [List.intercalate_singleton]
      | cons next rest => simp [List.intercalate_cons_cons, hx]
    · rw [List.intercalate_cons_of_ne_nil (List.ne_nil_of_mem hs)]
      exact List.mem_append_right _ (ih hs)

theorem separator_infix_cons_iff {c : Char} {cs : List Char}
    (h : ∀ rest, c = ':' → cs = ':' :: rest → False) :
    [':', ':'] <:+: c :: cs ↔ [':', ':'] <:+: cs := by
  have hno : ¬ [':', ':'] <+: c :: cs := by
    rintro ⟨rest, hrest⟩
    cases hrest
    exact h rest rfl rfl
  rw [List.infix_cons_iff, or_iff_right hno]

theorem hasSeparator_iff (cs : List Char) : hasSeparator cs = true ↔ [':', ':'] <:+: cs := by
  fun_induction hasSeparator cs with
  | case1 cs => simp [List.prefix_iff_eq_append, List.IsPrefix.isInfix]
  | case2 c cs hfirst ih => rw [ih, separator_infix_cons_iff hfirst]
  | case3 => simp

theorem segments_eq_singleton_iff {cs : List Char} :
    segments cs = [cs] ↔ ¬ [':', ':'] <:+: cs := by
  fun_induction segments cs with
  | case1 cs _ =>
    refine iff_of_false (fun h ↦ segments_ne_nil cs (List.cons.inj h).2) (not_not.mpr ?_)
    exact ⟨[], cs, rfl⟩
  | case2 c cs hfirst first rest hs ih =>
    rw [separator_infix_cons_iff hfirst, ← ih, hs]
    simp
  | case3 c cs _ hs => exact absurd hs (segments_ne_nil cs)
  | case4 => simp

theorem segments_append {p : List Char} (hp : p.getLast? ≠ some ':') (cs : List Char) :
    segments (p ++ ':' :: ':' :: cs) = segments p ++ segments cs := by
  have htail {c : Char} {p : List Char} (hp : (c :: p).getLast? ≠ some ':') :
      p.getLast? ≠ some ':' := by
    intro hlast
    rw [List.getLast?_cons, hlast] at hp
    exact hp rfl
  fun_induction segments p with
  | case1 p ih =>
    rw [List.cons_append, List.cons_append, segments, ih (htail (htail hp))]
    rfl
  | case2 c p hfirst first rest hs ih =>
    have hcons : c = ':' → (p ++ ':' :: ':' :: cs).head? ≠ some ':' := by
      rintro rfl hhead
      cases p with
      | nil => exact hp rfl
      | cons d p =>
        obtain rfl : d = ':' := Option.some.inj hhead
        exact hfirst p rfl rfl
    rw [List.cons_append, segments_cons hcons, ih (htail hp), hs]
    rfl
  | case3 c p _ hs => exact absurd hs (segments_ne_nil p)
  | case4 => rfl

/-- Of three colons in a row the first two are the separator: `a:::b` is divided behind `a`. -/
theorem segments_append_colon {p : List Char} (hp : ¬ [':', ':'] <:+: p ++ [':'])
    (cs : List Char) : segments (p ++ ':' :: ':' :: ':' :: cs) = p :: segments (':' :: cs) := by
  have hlast : p.getLast? ≠ some ':' := by
    intro hlast
    obtain ⟨front, rfl⟩ := List.getLast?_eq_some_iff.mp hlast
    exact hp ⟨front, [], by simp⟩
  have hone : segments p = [p] := by
    apply segments_eq_singleton_iff.mpr
    intro hin
    exact hp (hin.trans (List.prefix_append p [':']).isInfix)
  rw [segments_append hlast, hone, List.singleton_append]

theorem intercalate_append {separator : List Char} {l m : List (List Char)} (hl : l ≠ [])
    (hm : m ≠ []) : separator.intercalate (l ++ m) =
      separator.intercalate l ++ separator ++ separator.intercalate m := by
  induction l with
  | nil => exact absurd rfl hl
  | cons first rest ih =>
    cases rest with
    | nil =>
      rw [List.singleton_append, List.intercalate_cons_of_ne_nil hm, List.intercalate_singleton]
    | cons next rest =>
      have hne : next :: rest ≠ [] := List.cons_ne_nil next rest
      rw [List.cons_append, List.intercalate_cons_of_ne_nil (List.append_ne_nil_of_left_ne_nil hne m),
        ih hne, List.intercalate_cons_cons]
      simp only [List.append_assoc]

theorem dropSeparators_suffix (cs : List Char) : dropSeparators cs <:+ cs := by
  fun_induction dropSeparators cs with
  | case1 cs ih => exact ih.trans ⟨[':', ':'], rfl⟩
  | case2 cs => exact List.suffix_refl cs

end ManifestLint.Text
