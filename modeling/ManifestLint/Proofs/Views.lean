import ManifestLint.Proofs.Formatting
import ManifestLint.Proofs.Surroundings

namespace ManifestLint.Token.Stream

variable {tokens : List Token} {a b i k n : Nat}

/-- The index of the token at `i` among the significant tokens from `a` on. -/
def rankFrom (tokens : List Token) (a i : Nat) : Nat := rank tokens i - rank tokens a

theorem length_significant (tokens : List Token) (h : a ≤ b + 1) :
    (significant tokens a b).length = rankFrom tokens a (b + 1) := by
  have htake : tokens.take (b + 1) = tokens.take a ++ slice tokens a b := by
    rw [slice, ← List.take_add, Nat.add_sub_cancel' h]
  rw [rankFrom, rank, htake, List.countP_append, ← rank, Nat.add_sub_cancel_left,
    List.countP_eq_length_filter, significant]

theorem exists_nextSignificant (hik : i < k) (hk : SignificantAt tokens k) :
    ∃ n, IsLeast {j | i < j ∧ SignificantAt tokens j} n ∧ n ≤ k := by
  classical
  have hex : ∃ j, i < j ∧ SignificantAt tokens j := ⟨k, hik, hk⟩
  exact ⟨Nat.find hex, ⟨Nat.find_spec hex, fun _ ↦ Nat.find_min' hex⟩,
    Nat.find_min' hex ⟨hik, hk⟩⟩

theorem rank_of_isLeast (hi : SignificantAt tokens i)
    (hn : IsLeast {j | i < j ∧ SignificantAt tokens j} n) : rank tokens n = rank tokens i + 1 := by
  obtain ⟨⟨hin, _⟩, hleast⟩ := hn
  have hblank : significant tokens (i + 1) (n - 1) = [] := by
    apply significant_eq_nil
    intro j hij hjn hj
    have hle := hleast ⟨hij, hj⟩
    omega
  have hlength := length_significant tokens (a := i + 1) (b := n - 1) (by omega)
  have hmono : rank tokens (i + 1) ≤ rank tokens n := rank_mono hin
  rw [hblank, List.length_nil, rankFrom, Nat.sub_add_cancel (by omega)] at hlength
  rw [← rank_succ hi]
  omega

theorem rankFrom_self : rankFrom tokens a a = 0 := Nat.sub_self _

theorem rankFrom_of_isLeast (hai : a ≤ i) (hi : SignificantAt tokens i)
    (hn : IsLeast {j | i < j ∧ SignificantAt tokens j} n) :
    rankFrom tokens a n = rankFrom tokens a i + 1 := by
  have hmono : rank tokens a ≤ rank tokens i := rank_mono hai
  rw [rankFrom, rankFrom, rank_of_isLeast hi hn]
  omega

section Between

variable (hai : a ≤ i) (hib : i ≤ b) (hi : SignificantAt tokens i)
include hai hib hi

theorem getElem?_significant : (significant tokens a b)[rankFrom tokens a i]? = tokens[i]? := by
  obtain ⟨t, ht, hs⟩ := hi
  have hhere : (significant tokens i b)[0]? = tokens[i]? := by
    rw [significant_eq_cons ht hs hib, ht, List.getElem?_cons_zero]
  rcases hai.eq_or_lt with rfl | hlt
  · rw [rankFrom_self, hhere]
  · obtain ⟨m, rfl⟩ : ∃ m, i = m + 1 := ⟨i - 1, by omega⟩
    have hlength := length_significant tokens (a := a) (b := m) (by omega)
    rw [significant_append (k := m) (by omega) (by omega),
      List.getElem?_append_right hlength.le, hlength, Nat.sub_self, hhere]

theorem kindAt_significant :
    kindAt (significant tokens a b) (rankFrom tokens a i) = kindAt tokens i := by
  rw [kindAt, getElem?_significant hai hib hi, kindAt]

theorem significantAt_rankFrom :
    SignificantAt (significant tokens a b) (rankFrom tokens a i) := by
  obtain ⟨t, ht, hs⟩ := hi
  exact ⟨t, by rw [getElem?_significant hai hib ⟨t, ht, hs⟩, ht], hs⟩

end Between

/-- The view is aligned with its place among all significant tokens. -/
theorem alignment_significant (hb : SignificantAt tokens b) (hab : a ≤ b) :
    Alignment (significant tokens a b) (tokens.filter isSignificant) (· + rank tokens a)
      (rank tokens a) (rank tokens a + (significant tokens a b).length) := by
  have hmono : rank tokens a ≤ rank tokens b := rank_mono hab
  have hlt := rank_lt hb
  rw [← slice_rank hb hab]
  have al := Alignment.surrounded ((tokens.filter isSignificant).take (rank tokens a))
    (slice (tokens.filter isSignificant) (rank tokens a) (rank tokens b))
    ((tokens.filter isSignificant).drop (rank tokens b + 1))
  rwa [take_append_slice_append_drop (by omega), List.length_take,
    Nat.min_eq_left (by omega)] at al

theorem closes_significant {d : Delimiter} (hb : SignificantAt tokens b)
    (hai : a ≤ i) (hik : i ≤ k) (hkb : k ≤ b) (hi : SignificantAt tokens i)
    (hk : SignificantAt tokens k) :
    d.Closes (significant tokens a b) (rankFrom tokens a i) (rankFrom tokens a k) ↔
      d.Closes tokens i k := by
  have hplace {j : Nat} (haj : a ≤ j) : rankFrom tokens a j + rank tokens a = rank tokens j :=
    Nat.sub_add_cancel (rank_mono haj)
  have hsi := significantAt_rankFrom hai (hik.trans hkb) hi
  have hsk := significantAt_rankFrom (hai.trans hik) hkb hk
  have hview := (alignment_significant hb (hai.trans (hik.trans hkb))).closes_iff d hsi hsk
  rw [hplace hai, hplace (hai.trans hik)] at hview
  rw [← hview, (Alignment.compact tokens).closes_iff d hi hk]

section Walk

theorem filter_zipIdx_le (p : Token × Nat → Bool) (l : List Token) (k n : Nat) :
    (l.zipIdx k).filter (fun q ↦ k + n ≤ q.2 && p q) = ((l.drop n).zipIdx (k + n)).filter p := by
  induction l generalizing k n with
  | nil => simp
  | cons t l ih =>
    cases n with
    | zero =>
      apply List.filter_congr
      intro q hq
      have hle := List.le_snd_of_mem_zipIdx hq
      simp [hle]
    | succ n =>
      rw [List.zipIdx_cons, List.filter_cons_of_neg (by simp), List.drop_succ_cons,
        show k + (n + 1) = k + 1 + n by omega, ih]

/-- A walk through the significant tokens of a stretch that looks at each token and the one behind
it, as a walk through the stream. -/
theorem walk_significant {β : Type} {walk : List Token → List β}
    {visit : Token → Option Token → List β} (hnil : walk [] = [])
    (hcons : ∀ t rest, walk (t :: rest) = visit t rest.head? ++ walk rest) (a b : Nat) :
    walk (significant tokens a b) =
      (tokens.zipIdx.filter fun p ↦ a ≤ p.2 ∧ p.2 ≤ b ∧ p.1.isSignificant = true).flatMap fun p ↦
        visit p.1 (significant tokens (p.2 + 1) b).head? := by
  have hdrop := filter_zipIdx_le (fun p ↦ p.2 ≤ b ∧ p.1.isSignificant = true) tokens 0 a
  simp only [Nat.zero_add, ← Bool.decide_and] at hdrop
  rw [hdrop]
  clear hdrop
  generalize hl : tokens.drop a = l
  -- on the tokens from `a` on; the stretch ends with them or at `b`
  induction l generalizing a with
  | nil => rw [significant, slice, hl, List.take_nil]; exact hnil
  | cons t l ih =>
    obtain ⟨ht, hl⟩ := getElem?_of_drop_eq_cons hl
    rcases Nat.lt_or_ge b a with hba | hab
    · have hnone : significant tokens a b = [] := significant_eq_nil fun j haj hjb ↦ by omega
      have hfar : ((t :: l).zipIdx a).filter
          (fun p ↦ decide (p.2 ≤ b ∧ p.1.isSignificant = true)) = [] := by
        rw [List.filter_eq_nil_iff]
        intro p hp
        have hle := List.le_snd_of_mem_zipIdx hp
        simp
        omega
      rw [hnone, hfar]
      exact hnil
    · rw [List.zipIdx_cons]
      cases hs : t.isSignificant with
      | true =>
        rw [significant_eq_cons ht hs hab, hcons, ih (a + 1) hl,
          List.filter_cons_of_pos (by simp [hab, hs]), List.flatMap_cons]
      | false =>
        rw [significant, slice_eq_cons ht hab, List.filter_cons_of_neg (by simp [hs]),
          ← significant, ih (a + 1) hl, List.filter_cons_of_neg (by simp [hs])]

theorem walk_significant_eq_map {β : Type} (walk : List Token → List β)
    (visit : Token → Option Token → List β) (tokens : List Token) (hnil : walk [] = [])
    (hcons : ∀ t rest, walk (t :: rest) = visit t rest.head? ++ walk rest) {a b : Nat}
    {p : Token × Nat → Bool} {f : Token × Nat → β}
    (hvisit : ∀ q ∈ tokens.zipIdx, a ≤ q.2 → q.2 ≤ b →
      (if q.1.isSignificant then visit q.1 (significant tokens (q.2 + 1) b).head? else []) =
        if p q then [f q] else []) :
    walk (significant tokens a b) =
      (tokens.zipIdx.filter fun q ↦ a ≤ q.2 ∧ q.2 ≤ b ∧ p q = true).map f := by
  rw [walk_significant hnil hcons, List.map_eq_flatMap, Rule.Check.flatMap_filter,
    Rule.Check.flatMap_filter]
  apply List.flatMap_congr
  intro q hq
  by_cases hab : a ≤ q.2 ∧ q.2 ≤ b
  · simpa only [hab, true_and, decide_eq_true_eq] using hvisit q hq hab.1 hab.2
  · have hout {P : Prop} : ¬ (a ≤ q.2 ∧ q.2 ≤ b ∧ P) := fun h ↦ hab ⟨h.1, h.2.1⟩
    simp only [hout, decide_false, Bool.false_eq_true, if_false]

end Walk

end ManifestLint.Token.Stream
