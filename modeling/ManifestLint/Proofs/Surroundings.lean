import ManifestLint.Proofs.DeclarationHits

namespace ManifestLint

open Token Stream Declaration

section Append

variable (s t u : List Token)

theorem getElem?_surrounded {i : Nat} (h : i < t.length) :
    (s ++ t ++ u)[i + s.length]? = t[i]? := by
  rw [List.append_assoc, List.getElem?_append_right (Nat.le_add_left _ _), Nat.add_sub_cancel,
    List.getElem?_append_left h]

theorem slice_surrounded {i k : Nat} (hik : i ≤ k) (hk : k < t.length) :
    slice (s ++ t ++ u) (i + s.length) (k + s.length) = slice t i k := by
  unfold slice
  have hdrop : (s ++ t ++ u).drop (i + s.length) = t.drop i ++ u := by
    rw [List.append_assoc, Nat.add_comm, ← List.drop_drop, List.drop_left,
      List.drop_append_of_le_length (by omega)]
  have hlen : k + s.length + 1 - (i + s.length) = k + 1 - i := by omega
  rw [hdrop, hlen, List.take_append_of_le_length (by rw [List.length_drop]; omega)]

theorem Alignment.surrounded :
    Alignment t (s ++ t ++ u) (· + s.length) s.length (s.length + t.length) where
  inside i hi := by
    have hlt := hi.lt_length
    exact ⟨Nat.le_add_left _ _, by omega⟩
  onto j hlo hhi hj := by
    obtain ⟨a, ha, hs⟩ := hj
    refine ⟨j - s.length, ⟨a, ?_, hs⟩, Nat.sub_add_cancel hlo⟩
    rw [← getElem?_surrounded s t u (by omega), Nat.sub_add_cancel hlo, ha]
  strictMono i k _ hik := Nat.add_lt_add_right hik _
  segment i k _ hk hik := by
    rw [significant, slice_surrounded s t u hik hk.lt_length, significant]

/-- A declaration has the hits that it has when its tokens stand alone. -/
theorem hitsIn_slice {tokens : List Token} {d : Declaration} (hd : d ∈ locate tokens)
    (check : Rule.Check) (path : String) :
    check.hitsIn path tokens d =
      check.hitsIn path (slice tokens d.start d.last) (d.reindex (· - d.start)) := by
  obtain ⟨body, h⟩ := mem_locate_iff.mp hd
  have hle := h.start_le_last
  have hlast := h.closed.lt_length
  have hbefore : (tokens.take d.start).length = d.start := by rw [List.length_take]; omega
  have hinside : (slice tokens d.start d.last).length = d.last + 1 - d.start := by
    rw [slice, List.length_take, List.length_drop]; omega
  have al := Alignment.surrounded (tokens.take d.start) (slice tokens d.start d.last)
    (tokens.drop (d.last + 1))
  rw [take_append_slice_append_drop (by omega), hbefore, hinside] at al
  obtain ⟨e, he, hed⟩ := al.exists_reindex h le_rfl (by omega)
  obtain ⟨body', h'⟩ := mem_locate_iff.mp he
  have halone : d.reindex (· - d.start) = e :=
    calc d.reindex (· - d.start) = (e.reindex (· + d.start)).reindex (· - d.start) := by rw [hed]
      _ = e := by simp [reindex]
  rw [halone, ← al.hitsIn_reindex h' path check, hed]

theorem looseHits_surrounded (check : Rule.Check) :
    (check.looseHits t).Sublist (check.looseHits (s ++ t ++ u)) := by
  cases check with
  | rightToLeft =>
    have hsub : t.Sublist (s ++ t ++ u) :=
      (List.sublist_append_right s t).trans (List.sublist_append_left (s ++ t) u)
    exact (hsub.filter _).map _
  | _ => exact List.nil_sublist _

theorem hits_surrounded (check : Rule.Check) (path : String) :
    (check.hits ⟨path, t⟩).Sublist (check.hits ⟨path, s ++ t ++ u⟩) := by
  rw [Rule.Check.hits_eq, Rule.Check.hits_eq]
  apply (looseHits_surrounded s t u check).append
  rw [(Alignment.surrounded s t u).flatMap_hitsIn path check]
  exact List.filter_sublist.flatMap _

/-- Code around a stream hides no finding in it, and its declarations are those that lie in it. -/
theorem findings_surrounded (rules : List Rule) (config : Config) (path : String) :
    ((Analyzer.build rules config).analyzeFile ⟨path, t⟩).Sublist
        ((Analyzer.build rules config).analyzeFile ⟨path, s ++ t ++ u⟩) ∧
      (locate t).map (reindex (· + s.length)) =
        (locate (s ++ t ++ u)).filter
          (fun d ↦ s.length ≤ d.start ∧ d.last < s.length + t.length) := by
  refine ⟨?_, (Alignment.surrounded s t u).map_reindex_locate⟩
  apply List.Sublist.flatMap_right
  intro r _
  rw [Rule.runRule_eq, Rule.runRule_eq]
  split
  · exact ((hits_surrounded s t u r.check path).map _).map _
  · exact List.Sublist.refl []

end Append

end ManifestLint
