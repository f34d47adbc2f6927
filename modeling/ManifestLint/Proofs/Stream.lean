import ManifestLint.Token
import Mathlib.Order.Bounds.Basic
import Mathlib.Tactic.Common

namespace ManifestLint.Token.Stream

def ofKinds (kinds : List Kind) : List Token := kinds.map fun kind ↦ ⟨kind, "", 1, 1⟩

variable {tokens : List Token} {i k : Nat} {t : Token} {kind : Kind}

theorem kindAt_eq_some_iff :
    kindAt tokens i = some kind ↔ ∃ t, tokens[i]? = some t ∧ t.kind = kind := by
  simp only [kindAt, Option.map_eq_some_iff]

theorem kindAt_of_getElem? (h : tokens[i]? = some t) : kindAt tokens i = some t.kind := by
  rw [kindAt, h, Option.map_some]

theorem lt_length_of_getElem? (h : tokens[i]? = some t) : i < tokens.length :=
  (List.getElem?_eq_some_iff.mp h).1

theorem lt_length_of_kindAt (h : kindAt tokens i = some kind) : i < tokens.length := by
  obtain ⟨t, ht, _⟩ := kindAt_eq_some_iff.mp h
  exact lt_length_of_getElem? ht

theorem getElem?_of_drop_eq_cons {α : Type} {as l : List α} {a : α} (h : as.drop i = a :: l) :
    as[i]? = some a ∧ as.drop (i + 1) = l := by
  constructor
  · rw [← List.head?_drop, h, List.head?_cons]
  · rw [← List.tail_drop, h, List.tail_cons]

theorem drop_eq_cons_of_getElem? {α : Type} {as : List α} {a : α} (h : as[i]? = some a) :
    as.drop i = a :: as.drop (i + 1) := by
  obtain ⟨hi, ht⟩ := List.getElem?_eq_some_iff.mp h
  rw [List.drop_eq_getElem_cons hi, ht]

def SignificantAt (tokens : List Token) (i : Nat) : Prop :=
  ∃ t, tokens[i]? = some t ∧ t.isSignificant = true

theorem SignificantAt.lt_length (h : SignificantAt tokens i) : i < tokens.length := by
  obtain ⟨t, ht, _⟩ := h
  exact lt_length_of_getElem? ht

theorem significantAt_of_kindAt (h : kindAt tokens i = some kind) (hk : kind.isFormatting = false) :
    SignificantAt tokens i := by
  obtain ⟨t, ht, rfl⟩ := kindAt_eq_some_iff.mp h
  exact ⟨t, ht, by simp [isSignificant, isFormatting, hk]⟩

theorem nextSignificant_eq_some_iff {n : Nat} :
    nextSignificant tokens i = some n ↔ IsLeast {j | i < j ∧ SignificantAt tokens j} n := by
  unfold nextSignificant
  simp only [Option.map_eq_some_iff, List.findIdx?_eq_some_iff_getElem]
  constructor
  · intro h
    obtain ⟨m, ⟨hm, hs, hfirst⟩, hn⟩ := h
    subst hn
    rw [List.length_drop] at hm
    refine ⟨⟨by omega, tokens[m + (i + 1)], ?_, ?_⟩, ?_⟩
    · rw [List.getElem?_eq_getElem (by omega)]
    · rw [List.getElem_drop] at hs
      simpa only [Nat.add_comm] using hs
    · intro j ⟨hij, t, ht, hts⟩
      by_contra! hlt
      have hj := hfirst (j - (i + 1)) (by omega)
      rw [List.getElem_drop] at hj
      have he : i + 1 + (j - (i + 1)) = j := by omega
      obtain ⟨hl, hjt⟩ := List.getElem?_eq_some_iff.mp ht
      simp only [he, hjt, hts, not_true_eq_false] at hj
  · intro h
    obtain ⟨⟨hin, t, ht, hts⟩, hleast⟩ := h
    obtain ⟨hl, hnt⟩ := List.getElem?_eq_some_iff.mp ht
    have he : i + 1 + (n - (i + 1)) = n := by omega
    refine ⟨n - (i + 1), ⟨?_, ?_, ?_⟩, by omega⟩
    · rw [List.length_drop]; omega
    · rw [List.getElem_drop]
      simp only [he, hnt, hts]
    · intro j hj hs
      rw [List.getElem_drop] at hs
      have hmem : i + 1 + j ∈ {j | i < j ∧ SignificantAt tokens j} :=
        ⟨by omega, _, List.getElem?_eq_getElem (by omega), hs⟩
      have := hleast hmem
      omega

theorem slice_eq_cons (h : tokens[i]? = some t) (hik : i ≤ k) :
    slice tokens i k = t :: slice tokens (i + 1) k := by
  unfold slice
  rw [drop_eq_cons_of_getElem? h, show k + 1 - i = (k + 1 - (i + 1)) + 1 by omega,
    List.take_succ_cons]

theorem slice_succ (hik : i ≤ k + 1) :
    slice tokens i (k + 1) = slice tokens i k ++ tokens[k + 1]?.toList := by
  unfold slice
  rw [show k + 1 + 1 - i = (k + 1 - i) + 1 by omega, List.take_add_one, List.getElem?_drop,
    Nat.add_sub_cancel' hik]

theorem significant_eq_cons (h : tokens[i]? = some t) (hs : t.isSignificant = true) (hik : i ≤ k) :
    significant tokens i k = t :: significant tokens (i + 1) k := by
  rw [significant, slice_eq_cons h hik, List.filter_cons_of_pos hs, significant]

theorem significant_eq_concat (h : tokens[k + 1]? = some t) (hs : t.isSignificant = true)
    (hik : i ≤ k + 1) : significant tokens i (k + 1) = significant tokens i k ++ [t] := by
  rw [significant, slice_succ hik, h, Option.toList_some, List.filter_append,
    List.filter_cons_of_pos hs, List.filter_nil, significant]

/-- Between two significant tokens stand the significant tokens from the one to the other, without
these two. -/
theorem significant_between (hi : SignificantAt tokens i) (hk : SignificantAt tokens k)
    (hik : i < k) :
    significant tokens (i + 1) (k - 1) = (significant tokens i k).tail.dropLast := by
  obtain ⟨t, ht, hts⟩ := hi
  obtain ⟨u, hu, hus⟩ := hk
  obtain ⟨k, rfl⟩ : ∃ m, k = m + 1 := ⟨k - 1, by omega⟩
  rw [significant_eq_cons ht hts hik.le, List.tail_cons, significant_eq_concat hu hus hik,
    List.dropLast_concat, Nat.add_sub_cancel]

theorem significant_self (h : tokens[i]? = some t) (hs : t.isSignificant = true) :
    significant tokens i i = [t] := by
  rw [significant_eq_cons h hs le_rfl, significant, slice, Nat.sub_self, List.take_zero,
    List.filter_nil]

theorem getElem?_of_significant_self (h : significant tokens i i = [t]) : tokens[i]? = some t := by
  have hmem : t ∈ significant tokens i i := by rw [h]; exact List.mem_singleton_self t
  rw [significant, slice, Nat.add_sub_cancel_left, List.mem_filter] at hmem
  cases hi : tokens[i]? with
  | none =>
    rw [List.drop_eq_nil_iff.mpr (List.getElem?_eq_none_iff.mp hi)] at hmem
    cases hmem.1
  | some u =>
    rw [drop_eq_cons_of_getElem? hi, List.take_succ_cons, List.take_zero,
      List.mem_singleton] at hmem
    rw [hmem.1]

variable {a b : Nat}

theorem mem_slice_iff : t ∈ slice tokens a b ↔ ∃ i, a ≤ i ∧ i ≤ b ∧ tokens[i]? = some t := by
  rw [slice, List.mem_iff_getElem?]
  constructor
  · rintro ⟨j, hj⟩
    rw [List.getElem?_take] at hj
    split at hj
    · rw [List.getElem?_drop] at hj
      exact ⟨a + j, by omega, by omega, hj⟩
    · cases hj
  · rintro ⟨i, hai, hib, hi⟩
    refine ⟨i - a, ?_⟩
    rw [List.getElem?_take, if_pos (by omega), List.getElem?_drop, Nat.add_sub_cancel' hai, hi]

theorem slice_append (hi : i ≤ k + 1) (hk : k ≤ b) :
    slice tokens i b = slice tokens i k ++ slice tokens (k + 1) b := by
  rw [slice, show b + 1 - i = (k + 1 - i) + (b + 1 - (k + 1)) by omega, List.take_add,
    List.drop_drop, Nat.add_sub_cancel' hi, slice, slice]

theorem take_append_slice_append_drop (hi : i ≤ k + 1) :
    tokens.take i ++ slice tokens i k ++ tokens.drop (k + 1) = tokens := by
  have hdrop : tokens.drop (k + 1) = (tokens.drop i).drop (k + 1 - i) := by
    rw [List.drop_drop, Nat.add_sub_cancel' hi]
  rw [hdrop, slice, List.append_assoc, List.take_append_drop, List.take_append_drop]

theorem slice_sublist_slice (ha : a ≤ i) (hb : k ≤ b) :
    (slice tokens i k).Sublist (slice tokens a b) := by
  rcases Nat.lt_or_ge k i with hlt | hik
  · rw [slice, show k + 1 - i = 0 by omega, List.take_zero]
    exact List.nil_sublist _
  · rw [slice_append (by omega : a ≤ k + 1) hb, slice.eq_1 tokens a k, slice,
      show k + 1 - a = (i - a) + (k + 1 - i) by omega, List.take_add, List.drop_drop,
      Nat.add_sub_cancel' ha]
    exact (List.sublist_append_right _ _).trans (List.sublist_append_left _ _)

theorem significant_append (hi : i ≤ k + 1) (hk : k ≤ b) :
    significant tokens i b = significant tokens i k ++ significant tokens (k + 1) b := by
  rw [significant, slice_append hi hk, List.filter_append, significant, significant]

theorem significant_eq_nil (h : ∀ j, a ≤ j → j ≤ b → ¬ SignificantAt tokens j) :
    significant tokens a b = [] := by
  rw [significant, List.filter_eq_nil_iff]
  intro t ht hs
  obtain ⟨j, haj, hjb, hj⟩ := mem_slice_iff.mp ht
  exact h j haj hjb ⟨t, hj, hs⟩

/-- Before the next significant token there is nothing to be seen. -/
theorem significant_of_isLeast {n : Nat} (hn : IsLeast {j | i < j ∧ SignificantAt tokens j} n)
    (hnk : n ≤ k) : significant tokens (i + 1) k = significant tokens n k := by
  have hlt := hn.1.1
  rcases Nat.eq_or_lt_of_le (Nat.succ_le_of_lt hlt) with heq | hlt'
  · rw [← heq]
  · have hblank : significant tokens (i + 1) (n - 1) = [] := by
      apply significant_eq_nil
      intro j hij hjn hs
      have hle := hn.2 ⟨hij, hs⟩
      omega
    rw [significant_append (k := n - 1) (by omega) (by omega), hblank, List.nil_append,
      Nat.sub_add_cancel (by omega)]

theorem head?_significant (i last : Nat) :
    (significant tokens (i + 1) last).head? =
      (nextSignificant tokens i).bind fun j ↦ if j ≤ last then tokens[j]? else none := by
  cases hnext : nextSignificant tokens i with
  | none =>
    rw [nextSignificant, Option.map_eq_none_iff, List.findIdx?_eq_none_iff] at hnext
    have hnone : significant tokens (i + 1) last = [] := by
      rw [significant, List.filter_eq_nil_iff]
      intro t ht
      simp [hnext t (List.mem_of_mem_take ht)]
    rw [hnone]
    rfl
  | some j =>
    have hleast := nextSignificant_eq_some_iff.mp hnext
    rw [Option.bind_some]
    split
    next hj =>
      obtain ⟨t, ht, hs⟩ := hleast.1.2
      rw [significant_of_isLeast hleast hj, significant_eq_cons ht hs hj, List.head?_cons, ht]
    next hj =>
      have hnone : significant tokens (i + 1) last = [] := by
        apply significant_eq_nil
        intro k hik hk hs
        have hle := hleast.2 ⟨hik, hs⟩
        omega
      rw [hnone]
      rfl

end ManifestLint.Token.Stream
