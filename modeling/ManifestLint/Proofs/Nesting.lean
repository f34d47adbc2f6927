import ManifestLint.Proofs.Location
import Mathlib.Tactic.IntervalCases

namespace ManifestLint.Declaration

open Token Stream

/-- What stands between the name and the body leaves the body to this declaration: no other one
begins there, and no brace is closed that was opened before. -/
structure HasOwnBody (tokens : List Token) (d : Declaration) (body : Nat) : Prop where
  alone : ∀ k, d.name < k → k < body → ∀ kind : Kind, kindAt tokens k ≠ some kind.keyword
  enclosed : ∀ k, d.name < k → k < body →
    0 ≤ Delimiter.brace.balance (slice tokens (d.name + 1) k)

section Nesting

variable {tokens : List Token} {d e : Declaration} {a b : Nat}

theorem IsDeclaration.body_kind (h : IsDeclaration tokens d a) :
    kindAt tokens a = some .leftBrace := h.body_first.1.brace

theorem ne_of_kindAt_ne {i k : Nat} {x y : Token.Kind} (hi : kindAt tokens i = some x)
    (hk : kindAt tokens k = some y) (hxy : x ≠ y) : i ≠ k := by
  intro he
  subst he
  exact hxy (Option.some.inj (hi.symm.trans hk))

theorem IsDeclaration.name_le (h : IsDeclaration tokens d a) {k : Nat} (hk : d.start < k)
    (hs : SignificantAt tokens k) : d.name ≤ k := h.name_next.2 ⟨hk, hs⟩

theorem IsDeclaration.last_lt_last (hd : IsDeclaration tokens d a) (he : IsDeclaration tokens e b)
    (hab : a < b) (hb : b < d.last) : e.last < d.last := by
  obtain ⟨c, hc, hlt⟩ := hd.closed.exists_inside he.body_kind hab hb
  rwa [he.closed.unique hc]

theorem IsDeclaration.nested_iff (hd : IsDeclaration tokens d a) (he : IsDeclaration tokens e b) :
    e.last < d.last ↔ b < d.last ∧ b ≠ a ∧ (b < a → e.last < a) := by
  constructor
  · intro h
    have hb := he.body_lt_last
    refine ⟨by omega, fun heq ↦ ?_, fun hba ↦ ?_⟩
    · subst heq
      have hlast := hd.closed.unique he.closed
      omega
    · by_contra! hle
      have hne : a ≠ e.last := ne_of_kindAt_ne hd.body_kind he.closed.kindAt (by decide)
      have hin := he.last_lt_last hd hba (by omega)
      omega
  · intro h
    obtain ⟨hb, hne, hbefore⟩ := h
    rcases Nat.lt_or_gt_of_ne hne with hba | hab
    · exact (hbefore hba).trans hd.body_lt_last
    · exact hd.last_lt_last he hab hb

/-- A keyword in the range of a declaration with a body of its own stands in this body. -/
theorem HasOwnBody.body_lt_start (hd : IsDeclaration tokens d a) (he : IsDeclaration tokens e b)
    (hown : HasOwnBody tokens d a) (hlt : d.start < e.start) : a < e.start := by
  have hname := hd.name_le hlt he.significantAt_start
  have hne : d.name ≠ e.start :=
    ne_of_kindAt_ne hd.name_kind he.keyword (by cases e.kind <;> decide)
  have hbody : a ≠ e.start :=
    ne_of_kindAt_ne hd.body_kind he.keyword (by cases e.kind <;> decide)
  by_contra! hle
  exact hown.alone e.start (by omega) (by omega) e.kind he.keyword

/-- The search for a body of its own does not leave the body around the declaration. -/
theorem HasOwnBody.body_lt_last (hd : IsDeclaration tokens d a) (he : IsDeclaration tokens e b)
    (hown : HasOwnBody tokens e b) (ha : a < e.start) (hlast : e.start ≤ d.last) : b < d.last := by
  have hstart : e.start ≠ d.last :=
    ne_of_kindAt_ne he.keyword hd.closed.kindAt (by cases e.kind <;> decide)
  have hname := he.name_le (by omega) hd.significantAt_last
  have hne : e.name ≠ d.last := ne_of_kindAt_ne he.name_kind hd.closed.kindAt (by decide)
  have hbody : b ≠ d.last := ne_of_kindAt_ne he.body_kind hd.closed.kindAt (by decide)
  by_contra! hle
  -- behind `d.last` the stream is as low as before the body of `d`, and the name of `e` is higher
  have hbal := hown.enclosed d.last (by omega) (by omega)
  rw [Delimiter.balance_slice (by omega)] at hbal
  have hfalls := (Delimiter.closes_iff_falls.mp hd.closed).2
  have habove := hfalls.above (e.name + 1) (by have := he.start_lt_name; omega) (by omega)
  have hlevel := hfalls.level
  omega

theorem HasOwnBody.nested (hd : IsDeclaration tokens d a) (he : IsDeclaration tokens e b)
    (hdown : HasOwnBody tokens d a) (heown : HasOwnBody tokens e b) (hlt : d.start < e.start) :
    d.last < e.start ∨ e.last < d.last := by
  rcases Nat.lt_or_ge d.last e.start with hbehind | hin
  · exact Or.inl hbehind
  · have ha := hdown.body_lt_start hd he hlt
    have hb := heown.body_lt_last hd he ha hin
    have hab := ha.trans (he.start_lt_name.trans he.name_lt_body)
    exact Or.inr (hd.last_lt_last he hab hb)

end Nesting

/-- Of two declarations the later one lies behind the earlier one, or inside it; inside exactly if
its body is another one, begins before the earlier declaration ends, and does not reach from the
parameters of the earlier declaration into its body. One of the two is so whenever both declarations
have bodies of their own. -/
theorem locate_nested_iff {tokens : List Token} {d e : Declaration} (hd : d ∈ locate tokens)
    (he : e ∈ locate tokens) (h : d.start < e.start) :
    ∃ a b, bodyOpen tokens d.name = some a ∧ bodyOpen tokens e.name = some b ∧
      (d.last < e.start ∨ e.last < d.last ↔
        d.last < e.start ∨ b < d.last ∧ b ≠ a ∧ (b < a → e.last < a)) ∧
      (HasOwnBody tokens d a → HasOwnBody tokens e b →
        (d.last < e.start ∨ e.last < d.last) ∧ (d.contains e = true → e.last < d.last)) := by
  obtain ⟨a, hd⟩ := mem_locate_iff.mp hd
  obtain ⟨b, he⟩ := mem_locate_iff.mp he
  refine ⟨a, b, bodyOpen_eq_some_iff.mpr hd.body_first, bodyOpen_eq_some_iff.mpr he.body_first,
    or_congr_right (hd.nested_iff he), fun hdown heown ↦ ?_⟩
  have hnested := HasOwnBody.nested hd he hdown heown h
  refine ⟨hnested, fun hin ↦ ?_⟩
  simp only [contains, Bool.and_eq_true, decide_eq_true_eq] at hin
  omega

/-- A defined type in a class, with braces between the parentheses of its parameters. -/
theorem locate_nested_iff_parameters :
    let tokens := ofKinds [.classWord, .name, .leftBrace, .defineWord, .name, .leftParen,
      .leftBrace, .rightBrace, .rightParen, .leftBrace, .rightBrace, .rightBrace]
    let d : Declaration := ⟨.classDecl, 0, 1, 11⟩
    let e : Declaration := ⟨.definedType, 3, 4, 10⟩
    d ∈ locate tokens ∧ e ∈ locate tokens ∧ d.start < e.start ∧ HasOwnBody tokens d 2 ∧
      HasOwnBody tokens e 9 ∧ d.contains e = true ∧ e.last < d.last := by
  intro tokens d e
  have hd : d ∈ locate tokens := by decide
  have he : e ∈ locate tokens := by decide
  have hdown : HasOwnBody tokens d 2 :=
    ⟨fun k hk hlt ↦ absurd hk (by simp only [d]; omega),
      fun k hk hlt ↦ absurd hk (by simp only [d]; omega)⟩
  have heown : HasOwnBody tokens e 9 := by
    constructor
    · intro k hk hlt kind
      simp only [e] at hk
      interval_cases k <;> cases kind <;> decide
    · intro k hk hlt
      simp only [e] at hk
      interval_cases k <;> decide
  obtain ⟨a, b, ha, hb, _, h⟩ := locate_nested_iff hd he (by decide)
  obtain rfl : 2 = a := Option.some.inj (.trans (by decide) ha)
  obtain rfl : 9 = b := Option.some.inj (.trans (by decide) hb)
  exact ⟨hd, he, by decide, hdown, heown, by decide, (h hdown heown).2 (by decide)⟩

/-- A class without a body stands in another class. It is given the body of the class behind both,
with which it ends, and so does not end in the class that contains it. -/
theorem locate_not_nested :
    let tokens := ofKinds [.classWord, .name, .leftBrace, .classWord, .name, .rightBrace,
      .classWord, .name, .leftBrace, .rightBrace]
    let outer : Declaration := ⟨.classDecl, 0, 1, 5⟩
    let bare : Declaration := ⟨.classDecl, 3, 4, 9⟩
    let behind : Declaration := ⟨.classDecl, 6, 7, 9⟩
    locate tokens = [outer, bare, behind] ∧
      (outer.contains bare = true ∧ ¬ (outer.last < bare.start ∨ bare.last < outer.last)) ∧
      (bodyOpen tokens bare.name = bodyOpen tokens behind.name ∧
        ¬ (bare.last < behind.start ∨ behind.last < bare.last)) := by
  decide

end ManifestLint.Declaration
