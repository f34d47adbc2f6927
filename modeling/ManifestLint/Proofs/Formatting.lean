import ManifestLint.Proofs.DeclarationHits

namespace ManifestLint

open Token Stream Declaration

def Token.Stream.rank (tokens : List Token) (i : Nat) : Nat := (tokens.take i).countP isSignificant

variable {tokens : List Token} {i k : Nat}

theorem rank_succ (h : SignificantAt tokens i) : rank tokens (i + 1) = rank tokens i + 1 := by
  obtain ⟨t, ht, hs⟩ := h
  rw [rank, List.take_add_one, ht, Option.toList_some, List.countP_append,
    List.countP_cons_of_pos hs, List.countP_nil, rank]

theorem rank_mono (h : i ≤ k) : rank tokens i ≤ rank tokens k :=
  (List.take_sublist_take_left h).countP_le

theorem take_rank (tokens : List Token) (i : Nat) :
    (tokens.filter isSignificant).take (rank tokens i) = (tokens.take i).filter isSignificant := by
  have hsplit : tokens.filter isSignificant =
      (tokens.take i).filter isSignificant ++ (tokens.drop i).filter isSignificant := by
    rw [← List.filter_append, List.take_append_drop]
  rw [hsplit, rank, List.countP_eq_length_filter, List.take_left]

theorem rank_lt (h : SignificantAt tokens i) :
    rank tokens i < (tokens.filter isSignificant).length := by
  have hlt : rank tokens (i + 1) ≤ (tokens.filter isSignificant).length := by
    rw [rank, ← List.countP_eq_length_filter]
    exact (List.take_sublist (i + 1) tokens).countP_le
  rw [rank_succ h] at hlt
  exact hlt

theorem exists_rank_eq {tokens : List Token} {j : Nat}
    (h : j < (tokens.filter isSignificant).length) :
    ∃ i, SignificantAt tokens i ∧ rank tokens i = j := by
  induction tokens generalizing j with
  | nil => simp at h
  | cons t tokens ih =>
    have hcons (i : Nat) (hi : SignificantAt tokens i) : SignificantAt (t :: tokens) (i + 1) := by
      obtain ⟨a, ha, hs⟩ := hi
      exact ⟨a, by rwa [List.getElem?_cons_succ], hs⟩
    cases ht : t.isSignificant with
    | false =>
      rw [List.filter_cons_of_neg (by simp [ht])] at h
      obtain ⟨i, hi, hr⟩ := ih h
      refine ⟨i + 1, hcons i hi, ?_⟩
      rw [rank, List.take_succ_cons, List.countP_cons_of_neg (by simp [ht]), ← hr, rank]
    | true =>
      cases j with
      | zero => exact ⟨0, ⟨t, rfl, ht⟩, rfl⟩
      | succ j =>
        rw [List.filter_cons_of_pos ht, List.length_cons, Nat.succ_lt_succ_iff] at h
        obtain ⟨i, hi, hr⟩ := ih h
        refine ⟨i + 1, hcons i hi, ?_⟩
        rw [rank, List.take_succ_cons, List.countP_cons_of_pos ht, ← hr, rank]

theorem slice_rank (hk : SignificantAt tokens k) (hik : i ≤ k) :
    slice (tokens.filter isSignificant) (rank tokens i) (rank tokens k) =
      significant tokens i k := by
  have hprefix : (tokens.take (k + 1)).filter isSignificant =
      (tokens.take i).filter isSignificant ++ significant tokens i k := by
    rw [significant, slice, ← List.filter_append, ← List.take_add, Nat.add_sub_cancel' (by omega)]
  rw [slice, ← rank_succ hk, ← List.drop_take, take_rank, hprefix, rank,
    List.countP_eq_length_filter, List.drop_left]

theorem significant_rank (hk : SignificantAt tokens k) (hik : i ≤ k) :
    significant (tokens.filter isSignificant) (rank tokens i) (rank tokens k) =
      significant tokens i k := by
  rw [significant, slice_rank hk hik, significant, List.filter_filter]
  simp only [Bool.and_self]

/-- A stream is aligned with its significant tokens alone. -/
theorem Alignment.compact (tokens : List Token) :
    Alignment tokens (tokens.filter isSignificant) (rank tokens) 0
      (tokens.filter isSignificant).length where
  inside _ hi := ⟨Nat.zero_le _, rank_lt hi⟩
  onto _ _ hj _ := exists_rank_eq hj
  strictMono i k hi hik := by
    have hle : rank tokens (i + 1) ≤ rank tokens k := rank_mono hik
    rw [rank_succ hi] at hle
    exact hle
  segment _ _ _ hk hik := significant_rank hk hik

theorem looseHits_filter (check : Rule.Check) (tokens : List Token) :
    check.looseHits (tokens.filter isSignificant) = check.looseHits tokens := by
  cases check with
  | rightToLeft =>
    have hedge (t : Token) (h : (t.kind == .outEdge) = true) : t.isSignificant = true := by
      rw [isSignificant, isFormatting, beq_iff_eq.mp h]
      rfl
    simp only [Rule.Check.looseHits, Rule.RightToLeft.hits, List.filter_filter]
    congr 1
    apply List.filter_congr
    intro t _
    cases h : t.kind == .outEdge
    · rfl
    · rw [hedge t h]
      rfl
  | _ => rfl

theorem hits_filter (check : Rule.Check) (path : String) (tokens : List Token) :
    check.hits ⟨path, tokens.filter isSignificant⟩ = check.hits ⟨path, tokens⟩ := by
  rw [Rule.Check.hits_eq, Rule.Check.hits_eq, looseHits_filter,
    (Alignment.compact tokens).flatMap_hitsIn path check, locate_filter_length]

theorem analyzeFile_filter (a : Analyzer Rule) (path : String) (tokens : List Token) :
    a.analyzeFile ⟨path, tokens.filter isSignificant⟩ = a.analyzeFile ⟨path, tokens⟩ := by
  apply List.flatMap_congr
  intro r _
  rw [Rule.runRule_eq, Rule.runRule_eq, hits_filter]

/-- Streams that differ only in blanks and comments have the same findings, and they are those of
the stream without any. -/
theorem findings_of_filter_eq (rules : List Rule) (config : Config) (path : String)
    (tokens others : List Token)
    (h : tokens.filter isSignificant = others.filter isSignificant) :
    (Analyzer.build rules config).analyzeFile ⟨path, tokens⟩ =
        (Analyzer.build rules config).analyzeFile ⟨path, others⟩ ∧
      (Analyzer.build rules config).analyzeFile ⟨path, tokens⟩ =
        (Analyzer.build rules config).analyzeFile ⟨path, tokens.filter isSignificant⟩ := by
  constructor
  · rw [← analyzeFile_filter, h, analyzeFile_filter]
  · rw [analyzeFile_filter]

/-- A comment and blanks in a class with one finding. -/
theorem findings_of_filter_eq_comment :
    let spaced := ofKinds [.classWord, .whitespace, .name, .leftBrace, .comment, .newline, .outEdge,
      .rightBrace]
    let bare := ofKinds [.classWord, .name, .leftBrace, .outEdge, .rightBrace]
    let a := Analyzer.build Rule.all .empty
    spaced.filter isSignificant = bare.filter isSignificant ∧
      (a.analyzeFile ⟨"", bare⟩).length = 1 ∧
      a.analyzeFile ⟨"", spaced⟩ = a.analyzeFile ⟨"", bare⟩ :=
  ⟨by decide, by decide, (findings_of_filter_eq Rule.all .empty "" _ _ (by decide)).1⟩

end ManifestLint
