import ManifestLint.Proofs.Nesting
import ManifestLint.Proofs.Views

namespace ManifestLint.Rule.InheritsAcrossNamespaces

open Token Stream Declaration

/-- The place at which `inherits` may stand: the next significant token behind the name or, if that
is a parenthesis, behind the parameter list. -/
def clausePlace (tokens : List Token) (d : Declaration) : Option Nat := do
  let i ← nextSignificant tokens d.name
  if kindAt tokens i = some .leftParen then
    let list ← d.parameters tokens
    nextSignificant tokens list.2
  else some i

/-- The token at `p` follows the `inherits` of a declaration. -/
def ParentAt (tokens : List Token) (d : Declaration) (p : Nat) : Prop :=
  ∃ i ∈ clausePlace tokens d, kindAt tokens i = some .inheritsWord ∧ nextSignificant tokens i = some p

variable {tokens : List Token} {d : Declaration} {body i : Nat}

theorem rankFrom_name_next (h : IsDeclaration tokens d body)
    (hi : IsLeast {j | d.name < j ∧ SignificantAt tokens j} i) : rankFrom tokens d.start i = 2 := by
  rw [rankFrom_of_isLeast h.start_lt_name.le h.significantAt_name hi,
    rankFrom_of_isLeast le_rfl h.significantAt_start h.name_next, rankFrom_self]

/-- A parenthesis behind the name opens the parameter list, and it is closed among the significant
tokens where it is closed in the stream. -/
theorem matchingClose_tokens (h : IsDeclaration tokens d body)
    (hi : IsLeast {j | d.name < j ∧ SignificantAt tokens j} i)
    (hparen : kindAt tokens i = some .leftParen) :
    ∃ k, d.parameters tokens = some (i, k) ∧ i < k ∧ k < body ∧ SignificantAt tokens k ∧
      Delimiter.paren.matchingClose (d.tokens tokens 0) 2 = .ok (rankFrom tokens d.start k) := by
  have hname := h.start_lt_name
  have hlast := h.body_lt_last
  have hni := hi.1.1
  have hib : i < body := by
    have hle := hi.2 ⟨h.name_lt_body, h.significantAt_body⟩
    have hne : i ≠ body := ne_of_kindAt_ne hparen h.body_kind (by decide)
    omega
  have hfirst : IsLeast (headParens tokens d body) i :=
    ⟨⟨hni, hib, hparen⟩, fun j hj ↦ hi.2 ⟨hj.1, significantAt_of_kindAt hj.2.2 rfl⟩⟩
  have hlist := parameters_of_isDeclaration h
  generalize d.parameters tokens = r at hlist ⊢
  cases hlist with
  | absent hempty => exact absurd (hempty ▸ hfirst.1) (Set.notMem_empty i)
  | @list o k first closed before =>
    obtain rfl := first.unique hfirst
    have hok := closed.lt
    have hk : SignificantAt tokens k := significantAt_of_kindAt closed.kindAt rfl
    have hview : Delimiter.paren.Closes (d.tokens tokens 0) (rankFrom tokens d.start o)
        (rankFrom tokens d.start k) :=
      (closes_significant h.significantAt_last (by omega) hok.le (by omega) hi.1.2 hk).mpr closed
    rw [rankFrom_name_next h hi] at hview
    exact ⟨k, rfl, hok, before, hk, Delimiter.matchingClose_eq_ok_iff.mpr hview⟩

theorem inheritsIndex_tokens (h : IsDeclaration tokens d body) :
    ∃ i, clausePlace tokens d = some i ∧ d.name < i ∧ i ≤ body ∧ SignificantAt tokens i ∧
      inheritsIndex (d.tokens tokens 0) = some (rankFrom tokens d.start i) := by
  have hname := h.start_lt_name
  have hlast := h.body_lt_last
  obtain ⟨i, hi, hib⟩ := exists_nextSignificant h.name_lt_body h.significantAt_body
  have hni := hi.1.1
  have htwo := rankFrom_name_next h hi
  have hkind : kindAt (d.tokens tokens 0) (rankFrom tokens d.start i) = kindAt tokens i :=
    kindAt_significant (by omega) (by omega) hi.1.2
  rw [htwo] at hkind
  have hnext := nextSignificant_eq_some_iff.mpr hi
  unfold clausePlace inheritsIndex
  rw [hnext, hkind, Option.bind_eq_bind, Option.bind_some]
  by_cases hparen : kindAt tokens i = some .leftParen
  · obtain ⟨k, hlist, hik, hkb, hk, hclose⟩ := matchingClose_tokens h hi hparen
    obtain ⟨n, hn, hnb⟩ := exists_nextSignificant hkb h.significantAt_body
    have hkn := hn.1.1
    refine ⟨n, ?_, by omega, hnb, hn.1.2, ?_⟩
    · rw [if_pos hparen, hlist]
      exact nextSignificant_eq_some_iff.mpr hn
    · rw [if_pos hparen, hclose, rankFrom_of_isLeast (by omega) hk hn]
  · exact ⟨i, if_neg hparen, hni, hib, hi.1.2, by rw [if_neg hparen, htwo]⟩

theorem exists_parent (h : IsDeclaration tokens d body) (hni : d.name < i) (hib : i ≤ body)
    (hinherits : kindAt tokens i = some .inheritsWord) :
    ∃ p parent, nextSignificant tokens i = some p ∧ i < p ∧ p ≤ body ∧
      tokens[p]? = some parent ∧
      (d.tokens tokens 0)[rankFrom tokens d.start i + 1]? = some parent := by
  have hname := h.start_lt_name
  have hlast := h.body_lt_last
  have hi : SignificantAt tokens i := significantAt_of_kindAt hinherits rfl
  have hne : i ≠ body := ne_of_kindAt_ne hinherits h.body_kind (by decide)
  obtain ⟨p, hp, hpb⟩ := exists_nextSignificant (by omega : i < body) h.significantAt_body
  obtain ⟨parent, hparent, _⟩ := hp.1.2
  have hip := hp.1.1
  have hview : (d.tokens tokens 0)[rankFrom tokens d.start p]? = tokens[p]? :=
    getElem?_significant (by omega) (by omega) hp.1.2
  rw [rankFrom_of_isLeast (by omega) hi hp, hparent] at hview
  exact ⟨p, parent, nextSignificant_eq_some_iff.mpr hp, hip, hpb, hparent, hview⟩

theorem ParentAt.le_body (h : IsDeclaration tokens d body) {p : Nat} (hp : ParentAt tokens d p) :
    d.name < p ∧ p ≤ body := by
  obtain ⟨i, hplace, hinherits, hp⟩ := hp
  obtain ⟨i', hplace', hni, hib, -⟩ := inheritsIndex_tokens h
  obtain rfl : i' = i := Option.some.inj (hplace'.symm.trans hplace)
  obtain ⟨p', -, hp', hip, hpb, -⟩ := exists_parent h hni hib hinherits
  obtain rfl : p' = p := Option.some.inj (hp'.symm.trans hp)
  exact ⟨hni.trans hip, hpb⟩

theorem parent?_tokens (h : IsDeclaration tokens d body) {parent : Token} :
    parent? (d.tokens tokens 0) = some parent ↔
      ∃ p, ParentAt tokens d p ∧ tokens[p]? = some parent := by
  have hname := h.start_lt_name
  have hlast := h.body_lt_last
  obtain ⟨i, hplace, hni, hib, hi, hindex⟩ := inheritsIndex_tokens h
  have hkind : kindAt (d.tokens tokens 0) (rankFrom tokens d.start i) = kindAt tokens i :=
    kindAt_significant (by omega) (by omega) hi
  simp only [parent?, hindex, Option.bind_eq_bind, Option.bind_some, hkind, ParentAt, hplace,
    Option.mem_some_iff, exists_eq_left']
  by_cases hinherits : kindAt tokens i = some .inheritsWord
  · obtain ⟨p, parent', hp, -, -, hparent, hview⟩ := exists_parent h hni hib hinherits
    simp [hinherits, hp, hparent, hview]
  · simp [hinherits]

theorem hitIn_eq_some_iff (h : IsDeclaration tokens d body) {x : Hit} :
    hitIn tokens d = some x ↔ ∃ p parent, ParentAt tokens d p ∧ tokens[p]? = some parent ∧
      isWithin (d.nameText tokens).toList parent.text.toList = false ∧ x = hit parent := by
  obtain ⟨name, hname, _⟩ := h.significantAt_name
  have htext : d.nameText tokens = name.text := by
    rw [nameText, hname, Option.map_some, Option.getD_some]
  simp only [hitIn, bind, Option.bind_eq_some_iff, hname, Option.some_inj, exists_eq_left',
    Option.ite_none_left_eq_some, parent?_tokens h, htext, Bool.not_eq_true]
  constructor
  · rintro ⟨parent, ⟨p, hp, hparent⟩, hfar, rfl⟩
    exact ⟨p, parent, hp, hparent, hfar, rfl⟩
  · rintro ⟨p, parent, hp, hparent, hfar, rfl⟩
    exact ⟨parent, ⟨p, hp, hparent⟩, hfar, rfl⟩

end ManifestLint.Rule.InheritsAcrossNamespaces
