import ManifestLint.Proofs.Guarded

namespace ManifestLint

open Token Stream

namespace Delimiter

variable {d : Delimiter} {tokens : List Token} {i : Nat}

theorem matchingClose_of_kindAt_ne (h : kindAt tokens i ≠ some d.opener) :
    d.matchingClose tokens i = .error (.notAnOpener i d) := if_neg h

theorem matchingClose_of_kindAt (h : kindAt tokens i = some d.opener) :
    (∃ c, d.matchingClose tokens i = .ok c) ∨
      d.matchingClose tokens i = .error (.neverClosed i d) := by
  rw [matchingClose, if_pos h]
  cases d.closeFrom 0 i (tokens.drop i) with
  | none => exact .inr rfl
  | some c => exact .inl ⟨c, rfl⟩

structure StaysOpen (d : Delimiter) (tokens : List Token) (i : Nat) : Prop where
  opens : kindAt tokens i = some d.opener
  above : ∀ k, i ≤ k → k < tokens.length → 0 < d.balance (slice tokens i k)

theorem StaysOpen.not_closes (h : d.StaysOpen tokens i) (c : Nat) : ¬ d.Closes tokens i c := by
  intro hc
  have habove := h.above c hc.lt.le hc.lt_length
  have heven := hc.even
  omega

theorem staysOpen_of_not_closes (hopen : kindAt tokens i = some d.opener)
    (h : ∀ c, ¬ d.Closes tokens i c) : d.StaysOpen tokens i := by
  refine ⟨hopen, fun k hik _ ↦ ?_⟩
  rw [balance_slice (by omega)]
  by_contra! hk
  obtain ⟨c, hc, -⟩ := exists_closes hopen (b := k + 1) (by omega) (by omega)
  exact h c hc

theorem matchingClose_eq_neverClosed_iff :
    d.matchingClose tokens i = .error (.neverClosed i d) ↔ d.StaysOpen tokens i := by
  constructor
  · intro h
    have hopen : kindAt tokens i = some d.opener := by
      by_contra hne
      rw [matchingClose_of_kindAt_ne hne] at h
      cases h
    refine staysOpen_of_not_closes hopen fun c hc ↦ ?_
    rw [matchingClose_eq_ok_iff.mpr hc] at h
    cases h
  · intro h
    obtain ⟨c, hc⟩ | hnever := matchingClose_of_kindAt h.opens
    · exact absurd (matchingClose_eq_ok_iff.mp hc) (h.not_closes c)
    · exact hnever

theorem matchingClose_eq_notAnOpener_iff :
    d.matchingClose tokens i = .error (.notAnOpener i d) ↔ kindAt tokens i ≠ some d.opener := by
  constructor
  · intro h hopen
    obtain ⟨c, hc⟩ | hnever := matchingClose_of_kindAt hopen
    · rw [hc] at h
      cases h
    · rw [hnever] at h
      cases h
  · exact matchingClose_of_kindAt_ne

theorem closes_iff_le {c : Nat} : d.Closes tokens i c ↔
    kindAt tokens i = some d.opener ∧ i ≤ c ∧ d.balance (slice tokens i c) = 0 ∧
      ∀ k, i ≤ k → k < c → 0 < d.balance (slice tokens i k) := by
  constructor
  · intro h
    exact ⟨h.opens, h.lt.le, h.even, h.inside⟩
  · intro h
    obtain ⟨hopen, hle, heven, hinside⟩ := h
    refine ⟨hopen, lt_of_le_of_ne hle fun heq ↦ ?_, heven, hinside⟩
    obtain ⟨t, ht, hk⟩ := kindAt_eq_some_iff.mp hopen
    rw [← heq, balance_slice (by omega), height_succ ht, weight_opener hk] at heven
    omega

end Delimiter

namespace Guarded

variable {d : Delimiter} {tokens : List Token}

theorem add_ne_underflow (a b m n : Nat) : add a b ≠ .error (.underflow m n) := by
  rw [add]
  split <;> (intro h; cases h)

theorem ok_ne_underflow {α : Type} (a : α) (m n : Nat) :
    (.ok a : Guarded α) ≠ .error (.underflow m n) := by
  intro h
  cases h

theorem bind_ne_underflow {α β : Type} {x : Guarded α} {f : α → Guarded β} {m n : Nat}
    (hx : x ≠ .error (.underflow m n)) (hf : ∀ a, x = .ok a → f a ≠ .error (.underflow m n)) :
    (x >>= f) ≠ .error (.underflow m n) := by
  cases x with
  | ok a => exact hf a rfl
  | error fault => exact fun h ↦ hx (congrArg _ (Except.error.inj h))

theorem closeFrom_ne_underflow {depth i : Nat} (hpos : 0 < depth) (l : List Token) (m n : Nat) :
    closeFrom d depth i l ≠ .error (.underflow m n) := by
  induction l generalizing depth i with
  | nil => exact ok_ne_underflow none m n
  | cons t l ih =>
    rw [closeFrom]
    refine bind_ne_underflow (add_ne_underflow _ _ _ _) fun next _ ↦ ?_
    split
    · refine bind_ne_underflow (add_ne_underflow _ _ _ _) fun up hup ↦ ?_
      have hup := eq_of_add_eq_ok hup
      exact ih (by omega)
    · split
      · -- the only place where the depth goes down, and a pair is open there
        rw [sub_eq_ok hpos, ok_bind]
        split
        · exact ok_ne_underflow (some i) m n
        · exact ih (by omega)
      · exact ih hpos

/-- The depth does not go below zero, however long the stream is. -/
theorem matchingClose_ne_underflow (d : Delimiter) (tokens : List Token) (i m n : Nat) :
    matchingClose d tokens i ≠ .error (.underflow m n) := by
  rw [matchingClose]
  split
  · next hopen =>
    obtain ⟨t, ht, hk⟩ := kindAt_eq_some_iff.mp hopen
    refine bind_ne_underflow ?_ fun found _ ↦ ?_
    · have hup : add 0 1 = .ok 1 := rfl
      rw [drop_eq_cons_of_getElem? ht, closeFrom]
      refine bind_ne_underflow (add_ne_underflow _ _ _ _) fun next _ ↦ ?_
      rw [if_pos hk, hup, ok_bind]
      exact closeFrom_ne_underflow Nat.one_pos _ _ _
    · cases found <;> exact ok_ne_underflow _ m n
  · exact ok_ne_underflow _ m n

end Guarded

namespace Delimiter

/-- The search finds `c` exactly if from the opening token on the balance is positive before `c` and
zero with it, runs to the end exactly if the balance stays positive, and stops at once exactly if
there is no opening token to start from. With guards it never takes one from a depth of zero. -/
theorem matchingClose_outcome (d : Delimiter) (tokens : List Token) (i : Nat) :
    (∀ c, d.matchingClose tokens i = .ok c ↔
      kindAt tokens i = some d.opener ∧ i ≤ c ∧ d.balance (slice tokens i c) = 0 ∧
        ∀ k, i ≤ k → k < c → 0 < d.balance (slice tokens i k)) ∧
    (d.matchingClose tokens i = .error (.neverClosed i d) ↔
      kindAt tokens i = some d.opener ∧
        ∀ k, i ≤ k → k < tokens.length → 0 < d.balance (slice tokens i k)) ∧
    (d.matchingClose tokens i = .error (.notAnOpener i d) ↔ kindAt tokens i ≠ some d.opener) ∧
    ((∃ c, d.matchingClose tokens i = .ok c) ∨
      d.matchingClose tokens i = .error (.neverClosed i d) ∨
      d.matchingClose tokens i = .error (.notAnOpener i d)) ∧
    (∀ m n, Guarded.matchingClose d tokens i ≠ .error (.underflow m n)) ∧
    (tokens.length < 2 ^ 63 →
      Guarded.matchingClose d tokens i = .ok (d.matchingClose tokens i)) := by
  refine ⟨fun c ↦ ?_, ?_, matchingClose_eq_notAnOpener_iff, ?_,
    Guarded.matchingClose_ne_underflow d tokens i, fun h ↦ Guarded.matchingClose_eq_ok h d i⟩
  · rw [matchingClose_eq_ok_iff, closes_iff_le]
  · rw [matchingClose_eq_neverClosed_iff]
    exact ⟨fun h ↦ ⟨h.opens, h.above⟩, fun h ↦ ⟨h.1, h.2⟩⟩
  · by_cases hopen : kindAt tokens i = some d.opener
    · exact (matchingClose_of_kindAt hopen).imp_right .inl
    · exact .inr (.inr (matchingClose_of_kindAt_ne hopen))

variable {d : Delimiter} {tokens : List Token}

theorem Closes.ne_of_kindAt {i j c : Nat} (h : d.Closes tokens i c)
    (hopen : Stream.kindAt tokens j = some d.opener) : j ≠ c := by
  intro heq
  rw [heq, h.kindAt, Option.some_inj] at hopen
  exact d.opener_ne_closer hopen.symm

theorem Closes.lt_or_inside {i j c : Nat} (h : d.Closes tokens i c) (hij : i < j)
    (hopen : Stream.kindAt tokens j = some d.opener) : c < j ∨ ∃ e, d.Closes tokens j e ∧ e < c := by
  rcases lt_or_gt_of_ne (h.ne_of_kindAt hopen) with hjc | hcj
  · exact .inr (h.exists_inside hopen hij hjc)
  · exact .inl hcj

theorem Closes.opener_unique {i j c : Nat} (hi : d.Closes tokens i c) (hj : d.Closes tokens j c) :
    i = j := by
  have hnot {i j : Nat} (hi : d.Closes tokens i c) (hj : d.Closes tokens j c) : ¬ i < j := by
    intro hij
    obtain ⟨e, he, hec⟩ := hi.exists_inside hj.opens hij hj.lt
    have heq := he.unique hj
    omega
  exact le_antisymm (not_lt.mp (hnot hj hi)) (not_lt.mp (hnot hi hj))

/-- Two pairs of one delimiter do not cross: the one that is opened later comes after the other or is
closed inside it. So no two opening tokens share a closing one, and inside a pair that is closed
every pair is. -/
theorem matchingClose_laminar (d : Delimiter) (tokens : List Token) :
    (∀ i j c, i < j → kindAt tokens i = some d.opener → kindAt tokens j = some d.opener →
      d.matchingClose tokens i = .ok c →
      c < j ∨ ∃ e, d.matchingClose tokens j = .ok e ∧ j < e ∧ e < c) ∧
    (∀ i j c e, i ≠ j → d.matchingClose tokens i = .ok c → d.matchingClose tokens j = .ok e →
      c ≠ e) ∧
    ∀ i j c, d.matchingClose tokens i = .ok c → i < j → j < c →
      kindAt tokens j = some d.opener → ∃ e, d.matchingClose tokens j = .ok e ∧ j < e ∧ e < c := by
  simp only [matchingClose_eq_ok_iff]
  refine ⟨fun i j c hij _ hopen hc ↦ ?_, fun i j c e hne hc he heq ↦ ?_,
    fun i j c hc hij hjc hopen ↦ ?_⟩
  · refine (hc.lt_or_inside hij hopen).imp_right fun hinside ↦ ?_
    obtain ⟨e, he, hec⟩ := hinside
    exact ⟨e, he, he.lt, hec⟩
  · subst heq
    exact hne (hc.opener_unique he)
  · obtain ⟨e, he, hec⟩ := hc.exists_inside hopen hij hjc
    exact ⟨e, he, he.lt, hec⟩

/-- A pair inside another, with a bracket that stands across both. -/
theorem matchingClose_laminar_nested :
    let tokens : List Token := [⟨.leftParen, "(", 1, 1⟩, ⟨.leftBracket, "[", 1, 2⟩,
      ⟨.leftParen, "(", 1, 3⟩, ⟨.rightParen, ")", 1, 4⟩, ⟨.rightParen, ")", 1, 5⟩,
      ⟨.rightBracket, "]", 1, 6⟩]
    paren.matchingClose tokens 0 = .ok 4 ∧ kindAt tokens 2 = some paren.opener ∧
      ∃ e, paren.matchingClose tokens 2 = .ok e ∧ 2 < e ∧ e < 4 := by
  intro tokens
  have hclose : paren.matchingClose tokens 0 = .ok 4 := by decide
  have hopen : kindAt tokens 2 = some paren.opener := by decide
  obtain ⟨-, -, hinside⟩ := matchingClose_laminar paren tokens
  exact ⟨hclose, hopen, hinside 0 2 4 hclose (by decide) (by decide) hopen⟩

end Delimiter

end ManifestLint
