import ManifestLint.Proofs.ParameterList

namespace ManifestLint

open Token Stream

/-- The significant tokens of `A`, in their order, are those of `B` from `lo` up to `hi`; the map
`f` gives their places in `B`. -/
structure Alignment (A B : List Token) (f : Nat → Nat) (lo hi : Nat) : Prop where
  inside : ∀ i, SignificantAt A i → lo ≤ f i ∧ f i < hi
  onto : ∀ j, lo ≤ j → j < hi → SignificantAt B j → ∃ i, SignificantAt A i ∧ f i = j
  strictMono : ∀ i k, SignificantAt A i → i < k → f i < f k
  segment : ∀ i k, SignificantAt A i → SignificantAt A k → i ≤ k →
    significant B (f i) (f k) = significant A i k

theorem Delimiter.forall_balance_iff {d : Delimiter} {tokens : List Token} {i c : Nat}
    (P : Int → Prop) (hi : SignificantAt tokens i) :
    (∀ k, i ≤ k → k < c → P (d.balance (slice tokens i k))) ↔
      ∀ k, i ≤ k → k < c → SignificantAt tokens k → P (d.balance (slice tokens i k)) := by
  constructor
  · intro h k hik hkc _
    exact h k hik hkc
  · intro h k hik hkc
    induction k with
    | zero =>
      obtain rfl : i = 0 := by omega
      exact h 0 hik hkc hi
    | succ k ih =>
      by_cases hk : SignificantAt tokens (k + 1)
      · exact h (k + 1) hik hkc hk
      · have hne : i ≠ k + 1 := by
          intro he
          subst he
          exact hk hi
        rw [slice_succ hik, balance_append]
        cases ht : tokens[k + 1]? with
        | none => simpa using ih (by omega) (by omega)
        | some t =>
          have hts : t.isSignificant = false := by
            cases hts : t.isSignificant
            · rfl
            · exact absurd ⟨t, ht, hts⟩ hk
          simpa [weight_formatting hts] using ih (by omega) (by omega)

namespace Alignment

variable {A B : List Token} {f : Nat → Nat} {lo hi i k : Nat}

theorem lt_iff (al : Alignment A B f lo hi) (hsi : SignificantAt A i) (hsk : SignificantAt A k) :
    f i < f k ↔ i < k := by
  constructor
  · intro h
    rcases Nat.lt_trichotomy i k with hlt | rfl | hlt
    · exact hlt
    · omega
    · have hki := al.strictMono k i hsk hlt
      omega
  · exact al.strictMono i k hsi

theorem le_iff (al : Alignment A B f lo hi) (hsi : SignificantAt A i) (hsk : SignificantAt A k) :
    f i ≤ f k ↔ i ≤ k := by
  rw [← Nat.not_lt, al.lt_iff hsk hsi, Nat.not_lt]

theorem getElem?_eq (al : Alignment A B f lo hi) (hsi : SignificantAt A i) : B[f i]? = A[i]? := by
  have hseg := al.segment i i hsi hsi le_rfl
  obtain ⟨t, ht, hs⟩ := hsi
  rw [significant_self ht hs] at hseg
  rw [getElem?_of_significant_self hseg, ht]

theorem significantAt (al : Alignment A B f lo hi) (hsi : SignificantAt A i) :
    SignificantAt B (f i) := by
  obtain ⟨t, ht, hs⟩ := hsi
  exact ⟨t, by rw [al.getElem?_eq ⟨t, ht, hs⟩, ht], hs⟩

theorem kindAt_eq (al : Alignment A B f lo hi) (hsi : SignificantAt A i) :
    kindAt B (f i) = kindAt A i := by
  rw [kindAt, al.getElem?_eq hsi, kindAt]

theorem balance_eq (al : Alignment A B f lo hi) (d : Delimiter) (hsi : SignificantAt A i)
    (hsk : SignificantAt A k) (hik : i ≤ k) :
    d.balance (slice B (f i) (f k)) = d.balance (slice A i k) := by
  rw [← d.balance_filter, ← d.balance_filter (slice A i k)]
  exact congrArg d.balance (al.segment i k hsi hsk hik)

theorem exists_of_le (al : Alignment A B f lo hi) {j : Nat} (hsi : SignificantAt A i)
    (hij : f i ≤ j) (hj : j < hi) (hs : SignificantAt B j) :
    ∃ k, SignificantAt A k ∧ i ≤ k ∧ f k = j := by
  obtain ⟨k, hk, rfl⟩ := al.onto j ((al.inside i hsi).1.trans hij) hj hs
  exact ⟨k, hk, (al.le_iff hsi hk).mp hij, rfl⟩

theorem forall_balance_iff (al : Alignment A B f lo hi) (d : Delimiter) (P : Int → Prop)
    (hsi : SignificantAt A i) (hsk : SignificantAt A k) :
    (∀ j, f i ≤ j → j < f k → P (d.balance (slice B (f i) j))) ↔
      ∀ j, i ≤ j → j < k → P (d.balance (slice A i j)) := by
  rw [Delimiter.forall_balance_iff P (al.significantAt hsi), Delimiter.forall_balance_iff P hsi]
  constructor
  · intro h j hij hjk hj
    rw [← al.balance_eq d hsi hj hij]
    exact h (f j) ((al.le_iff hsi hj).mpr hij) ((al.lt_iff hj hsk).mpr hjk) (al.significantAt hj)
  · intro h j hij hjk hj
    obtain ⟨m, hm, him, rfl⟩ := al.exists_of_le hsi hij (hjk.trans (al.inside k hsk).2) hj
    rw [al.balance_eq d hsi hm him]
    exact h m him ((al.lt_iff hm hsk).mp hjk) hm

theorem closes_iff (al : Alignment A B f lo hi) (d : Delimiter) (hsi : SignificantAt A i)
    (hsk : SignificantAt A k) : d.Closes B (f i) (f k) ↔ d.Closes A i k := by
  constructor
  · intro h
    obtain ⟨hopen, hlt, heven, hinside⟩ := h
    have hik := (al.lt_iff hsi hsk).mp hlt
    refine ⟨by rwa [← al.kindAt_eq hsi], hik, by rwa [← al.balance_eq d hsi hsk hik.le], ?_⟩
    exact (al.forall_balance_iff d (0 < ·) hsi hsk).mp hinside
  · intro h
    obtain ⟨hopen, hlt, heven, hinside⟩ := h
    refine ⟨by rwa [al.kindAt_eq hsi], (al.lt_iff hsi hsk).mpr hlt,
      by rwa [al.balance_eq d hsi hsk hlt.le], ?_⟩
    exact (al.forall_balance_iff d (0 < ·) hsi hsk).mpr hinside

/-- Corresponding sets of significant places, from a place on, have corresponding least members. -/
theorem isLeast_iff (al : Alignment A B f lo hi) {S T : Set Nat} (hsi : SignificantAt A i)
    (hS : ∀ j ∈ S, SignificantAt A j) (hT : ∀ j ∈ T, f i ≤ j ∧ SignificantAt B j)
    (hST : ∀ j, SignificantAt A j → (f j ∈ T ↔ j ∈ S)) (hsk : SignificantAt A k) :
    IsLeast T (f k) ↔ IsLeast S k := by
  constructor
  · intro h
    obtain ⟨hmem, hleast⟩ := h
    refine ⟨(hST k hsk).mp hmem, fun j hj ↦ ?_⟩
    exact (al.le_iff hsk (hS j hj)).mp (hleast ((hST j (hS j hj)).mpr hj))
  · intro h
    obtain ⟨hmem, hleast⟩ := h
    refine ⟨(hST k hsk).mpr hmem, fun j hj ↦ ?_⟩
    rcases Nat.lt_or_ge j hi with hlt | hge
    · obtain ⟨m, hm, _, rfl⟩ := al.exists_of_le hsi (hT j hj).1 hlt (hT j hj).2
      exact (al.le_iff hsk hm).mpr (hleast ((hST m hm).mp hj))
    · exact (al.inside k hsk).2.le.trans hge

end Alignment

namespace Declaration

def reindex (f : Nat → Nat) (d : Declaration) : Declaration :=
  ⟨d.kind, f d.start, f d.name, f d.last⟩

theorem opensBody_iff_from_name {tokens : List Token} {n b : Nat}
    (hn : kindAt tokens n = some .name) : OpensBody tokens n b ↔
      n < b ∧ kindAt tokens b = some .leftBrace ∧ Delimiter.paren.balance (slice tokens n b) = 0 ∧
      ∀ k, n ≤ k → k < b → 0 ≤ Delimiter.paren.balance (slice tokens n k) := by
  have hflat : Delimiter.paren.height tokens (n + 1) = Delimiter.paren.height tokens n :=
    Delimiter.height_succ_of_kindAt hn (by decide) (by decide)
  have hslice {k : Nat} (hnk : n ≤ k) : Delimiter.paren.balance (slice tokens n k) =
      Delimiter.paren.balance (slice tokens (n + 1) k) := by
    rw [Delimiter.balance_slice (by omega), Delimiter.balance_slice (by omega), hflat]
  constructor
  · intro h
    obtain ⟨hlt, hbrace, heven, hinside⟩ := h
    refine ⟨hlt, hbrace, by rwa [hslice hlt.le], fun k hnk hkb ↦ ?_⟩
    rcases hnk.eq_or_lt with rfl | hnk
    · rw [Delimiter.balance_slice (by omega), hflat]
      omega
    · rw [hslice hnk.le]
      exact hinside k hnk hkb.le
  · intro h
    obtain ⟨hlt, hbrace, heven, hinside⟩ := h
    rw [hslice hlt.le] at heven
    refine ⟨hlt, hbrace, heven, fun k hnk hkb ↦ ?_⟩
    rcases hkb.eq_or_lt with rfl | hkb
    · exact heven.ge
    · rw [← hslice hnk.le]
      exact hinside k hnk.le hkb

end Declaration

namespace Alignment

open Declaration

variable {A B : List Token} {f : Nat → Nat} {lo hi n b body : Nat} {d : Declaration}

theorem opensBody_iff (al : Alignment A B f lo hi) (hn : kindAt A n = some .name)
    (hb : SignificantAt A b) : OpensBody B (f n) (f b) ↔ OpensBody A n b := by
  have hsn : SignificantAt A n := significantAt_of_kindAt hn rfl
  rw [opensBody_iff_from_name hn, opensBody_iff_from_name (by rwa [al.kindAt_eq hsn]),
    al.kindAt_eq hb, al.lt_iff hsn hb, al.forall_balance_iff .paren (0 ≤ ·) hsn hb]
  constructor
  · intro h
    obtain ⟨hlt, hbrace, heven, hinside⟩ := h
    exact ⟨hlt, hbrace, by rwa [← al.balance_eq .paren hsn hb hlt.le], hinside⟩
  · intro h
    obtain ⟨hlt, hbrace, heven, hinside⟩ := h
    exact ⟨hlt, hbrace, by rwa [al.balance_eq .paren hsn hb hlt.le], hinside⟩

theorem isLeast_name_iff (al : Alignment A B f lo hi) {i : Nat} (hsi : SignificantAt A i)
    (hn : SignificantAt A n) :
    IsLeast {j | f i < j ∧ SignificantAt B j} (f n) ↔
      IsLeast {j | i < j ∧ SignificantAt A j} n := by
  apply al.isLeast_iff hsi
  · exact fun j hj ↦ hj.2
  · exact fun j hj ↦ ⟨hj.1.le, hj.2⟩
  · intro j hj
    exact and_congr (al.lt_iff hsi hj) (iff_of_true (al.significantAt hj) hj)
  · exact hn

theorem isLeast_body_iff (al : Alignment A B f lo hi) (hn : kindAt A n = some .name)
    (hb : SignificantAt A b) :
    IsLeast {b | OpensBody B (f n) b} (f b) ↔ IsLeast {b | OpensBody A n b} b := by
  apply al.isLeast_iff (significantAt_of_kindAt hn rfl)
  · exact fun j hj ↦ hj.significantAt
  · exact fun j hj ↦ ⟨hj.lt.le, hj.significantAt⟩
  · exact fun j hj ↦ al.opensBody_iff hn hj
  · exact hb

theorem isDeclaration_iff (al : Alignment A B f lo hi) (hstart : SignificantAt A d.start)
    (hname : SignificantAt A d.name) (hbody : SignificantAt A body)
    (hlast : SignificantAt A d.last) :
    IsDeclaration B (d.reindex f) (f body) ↔ IsDeclaration A d body := by
  constructor
  · intro h
    obtain ⟨hkeyword, hnext, hkind, hfirst, hclosed⟩ := h
    have hn : kindAt A d.name = some .name := (al.kindAt_eq hname).symm.trans hkind
    exact ⟨(al.kindAt_eq hstart).symm.trans hkeyword,
      (al.isLeast_name_iff hstart hname).mp hnext, hn,
      (al.isLeast_body_iff hn hbody).mp hfirst, (al.closes_iff .brace hbody hlast).mp hclosed⟩
  · intro h
    obtain ⟨hkeyword, hnext, hn, hfirst, hclosed⟩ := h
    exact ⟨(al.kindAt_eq hstart).trans hkeyword, (al.isLeast_name_iff hstart hname).mpr hnext,
      (al.kindAt_eq hname).trans hn, (al.isLeast_body_iff hn hbody).mpr hfirst,
      (al.closes_iff .brace hbody hlast).mpr hclosed⟩

theorem isDeclaration_reindex (al : Alignment A B f lo hi) (h : IsDeclaration A d body) :
    IsDeclaration B (d.reindex f) (f body) :=
  (al.isDeclaration_iff h.significantAt_start h.significantAt_name h.significantAt_body
    h.significantAt_last).mpr h

theorem exists_reindex (al : Alignment A B f lo hi) {e : Declaration}
    (h : IsDeclaration B e body) (hlo : lo ≤ e.start) (hhi : e.last < hi) :
    ∃ d, d ∈ locate A ∧ d.reindex f = e := by
  have h₁ := h.start_lt_name
  have h₂ := h.name_lt_body
  have h₃ := h.body_lt_last
  obtain ⟨s, hs, hes⟩ := al.onto e.start hlo (by omega) h.significantAt_start
  obtain ⟨n, hn, hen⟩ := al.onto e.name (by omega) (by omega) h.significantAt_name
  obtain ⟨b, hb, heb⟩ := al.onto body (by omega) (by omega) h.significantAt_body
  obtain ⟨l, hl, hel⟩ := al.onto e.last (by omega) hhi h.significantAt_last
  have he : reindex f ⟨e.kind, s, n, l⟩ = e := by rw [reindex, hes, hen, hel]
  refine ⟨⟨e.kind, s, n, l⟩, mem_locate_iff.mpr ⟨b, ?_⟩, he⟩
  exact (al.isDeclaration_iff hs hn hb hl).mp (by rwa [he, heb])

/-- The declarations of `A`, at their places in `B`, are the declarations of `B` that lie between
`lo` and `hi`. -/
theorem map_reindex_locate (al : Alignment A B f lo hi) :
    (locate A).map (reindex f) = (locate B).filter (fun e ↦ lo ≤ e.start ∧ e.last < hi) := by
  apply eq_of_pairwise_of_mem_iff
  · rw [List.pairwise_map]
    refine (locate_pairwise A).imp_of_mem ?_
    intro d e hd _ hlt
    obtain ⟨body, h⟩ := mem_locate_iff.mp hd
    exact al.strictMono d.start e.start h.significantAt_start hlt
  · exact (locate_pairwise B).filter _
  · intro e
    rw [List.mem_map, List.mem_filter, mem_locate_iff, decide_eq_true_eq]
    constructor
    · intro h
      obtain ⟨d, hd, he⟩ := h
      subst he
      obtain ⟨body, h⟩ := mem_locate_iff.mp hd
      exact ⟨⟨f body, al.isDeclaration_reindex h⟩, (al.inside d.start h.significantAt_start).1,
        (al.inside d.last h.significantAt_last).2⟩
    · intro h
      obtain ⟨⟨body, h⟩, hlo, hhi⟩ := h
      exact al.exists_reindex h hlo hhi

theorem parameters_reindex (al : Alignment A B f lo hi) (h : IsDeclaration A d body) :
    (d.reindex f).parameters B = (d.parameters A).map (Prod.map f f) := by
  have hparens : ∀ j, SignificantAt A j →
      (f j ∈ headParens B (d.reindex f) (f body) ↔ j ∈ headParens A d body) := by
    intro j hj
    exact and_congr (al.lt_iff h.significantAt_name hj)
      (and_congr (al.lt_iff hj h.significantAt_body) (by rw [al.kindAt_eq hj]))
  have hA : ∀ j ∈ headParens A d body, SignificantAt A j :=
    fun j hj ↦ significantAt_of_kindAt hj.2.2 rfl
  have hB : ∀ j ∈ headParens B (d.reindex f) (f body), f d.name ≤ j ∧ SignificantAt B j :=
    fun j hj ↦ ⟨hj.1.le, significantAt_of_kindAt hj.2.2 rfl⟩
  apply (parameters_of_isDeclaration (al.isDeclaration_reindex h)).unique
  have hp := parameters_of_isDeclaration h
  generalize d.parameters A = r at hp ⊢
  cases hp with
  | absent hempty =>
    refine .absent (Set.eq_empty_of_forall_notMem fun j hj ↦ ?_)
    have hhi := (al.inside body h.significantAt_body).2
    obtain ⟨m, hm, _, hmj⟩ := al.exists_of_le h.significantAt_name (hB j hj).1
      (hj.2.1.trans hhi) (hB j hj).2
    subst hmj
    exact absurd (hempty ▸ (hparens m hm).mp hj) (Set.notMem_empty m)
  | @list o k first closed before =>
    have ho := hA o first.1
    have hk : SignificantAt A k := significantAt_of_kindAt closed.kindAt rfl
    exact .list ((al.isLeast_iff h.significantAt_name hA hB hparens ho).mpr first)
      ((al.closes_iff .paren ho hk).mpr closed) ((al.lt_iff hk h.significantAt_body).mpr before)

end Alignment

end ManifestLint
