import ManifestLint.Proofs.InheritsClause

namespace ManifestLint

open Token Stream Declaration

def Token.Before (t u : Token) : Prop :=
  t.line < u.line ∨ t.line = u.line ∧ t.column < u.column

instance : DecidableRel Token.Before := fun t u ↦
  inferInstanceAs (Decidable (t.line < u.line ∨ t.line = u.line ∧ t.column < u.column))

def Finding.AtOrBefore (f f' : Finding) : Prop :=
  f.location.line < f'.location.line ∨
    f.location.line = f'.location.line ∧ f.location.column ≤ f'.location.column

instance : DecidableRel Finding.AtOrBefore := fun f f' ↦
  inferInstanceAs (Decidable (f.location.line < f'.location.line ∨
    f.location.line = f'.location.line ∧ f.location.column ≤ f'.location.column))

def Token.Stream.inLine (kinds : List Token.Kind) : List Token :=
  kinds.zipIdx.map fun p ↦ ⟨p.1, "", 1, UInt64.ofNat (p.2 + 1)⟩

namespace Declaration

variable {tokens : List Token} {d e : Declaration} {body : Nat}

theorem tokens_sublist (offset : Nat) :
    (d.tokens tokens offset).Sublist (slice tokens d.start d.last) :=
  List.filter_sublist.trans (slice_sublist_slice (Nat.le_add_right _ _) le_rfl)

theorem IsDeclaration.name_lt_start {body' : Nat} (hd : IsDeclaration tokens d body)
    (he : IsDeclaration tokens e body') (hlt : d.start < e.start) : d.name < e.start := by
  have hne : d.name ≠ e.start :=
    ne_of_kindAt_ne hd.name_kind he.keyword (by cases e.kind <;> decide)
  exact lt_of_le_of_ne (hd.name_le hlt he.significantAt_start) hne

theorem pairwise_locate_iff {P : Declaration → Declaration → Prop} :
    (locate tokens).Pairwise P ↔
      ∀ d ∈ locate tokens, ∀ e ∈ locate tokens, d.start < e.start → P d e := by
  have hstart := locate_pairwise tokens
  constructor
  · intro h d hd e he hlt
    obtain ⟨i, hi, rfl⟩ := List.getElem_of_mem hd
    obtain ⟨j, hj, rfl⟩ := List.getElem_of_mem he
    rw [List.pairwise_iff_getElem] at h hstart
    rcases Nat.lt_trichotomy i j with hij | rfl | hji
    · exact h i j hi hj hij
    · omega
    · have hback := hstart j i hj hi hji
      omega
  · intro h
    exact hstart.imp_of_mem fun hd he hlt ↦ h _ hd _ he hlt

end Declaration

namespace Rule

def InOrder (r : Rule) (m : Manifest) : Prop := (r.findings m).Pairwise Finding.AtOrBefore

instance (r : Rule) (m : Manifest) : Decidable (r.InOrder m) :=
  inferInstanceAs (Decidable ((r.findings m).Pairwise Finding.AtOrBefore))

theorem atOrBefore_of_before (r : Rule) (path : String) {x y : Hit}
    (h : x.token.Before y.token) : (r.finding path x).AtOrBefore (r.finding path y) := by
  rcases h with hline | ⟨hline, hcolumn⟩
  · exact Or.inl hline
  · exact Or.inr ⟨hline, UInt64.le_of_lt hcolumn⟩

section Views

theorem NestedDeclarations.hitsAmong_sublist (l : List Token) :
    ((hitsAmong l).map (·.token)).Sublist l := by
  induction l with
  | nil => exact List.Sublist.refl []
  | cons t l ih =>
    have hfirst : ((hit? t l).toList.map (·.token)).Sublist [t] := by
      unfold hit?
      split
      · split
        · split <;> simp
        · simp
      · split <;> simp
    rw [hitsAmong, List.map_append]
    exact hfirst.append ih

theorem ParameterOrder.lateFrom_sublist (depth : Nat) (seen : Bool)
    (previous : Option Token.Kind) (l : List Token) :
    (lateFrom depth seen previous l).Sublist l := by
  fun_induction lateFrom depth seen previous l with
  | case1 => exact List.Sublist.refl []
  | case3 => exact List.nil_sublist _
  | case7 => exact List.Sublist.cons_cons _ (by assumption)
  | _ => exact List.Sublist.cons _ (by assumption)

theorem VariableScope.occurrences_sublist (l : List Token) :
    ((occurrences l).map (·.1)).Sublist l := by
  induction l with
  | nil => exact List.Sublist.refl []
  | cons t l ih =>
    rw [occurrences]
    split
    · exact ih.cons_cons t
    · exact ih.cons t

end Views

/-- The last place of a declaration at which a check reports something. -/
def Check.reach (tokens : List Token) (d : Declaration) : Check → Nat
  | .rightToLeft => d.start
  | .autoloaderLayout _ => d.name
  | .parameterOrder => (bodyOpen tokens d.name).getD d.last
  | .inheritsAcrossNamespaces =>
    if d.isClass then (bodyOpen tokens d.name).getD d.last else d.start
  | .nestedDeclarations => if d.isClass then d.last else d.start
  | .variableScope _ => d.last

/-- No declaration begins where a check still reports something of an earlier one. -/
def Check.Apart (check : Check) (tokens : List Token) : Prop :=
  ∀ d ∈ locate tokens, ∀ e ∈ locate tokens, d.start < e.start → check.reach tokens d < e.start

instance (check : Check) (tokens : List Token) : Decidable (check.Apart tokens) :=
  inferInstanceAs (Decidable (∀ d ∈ locate tokens, ∀ e ∈ locate tokens, d.start < e.start →
    check.reach tokens d < e.start))

section Reach

variable {tokens : List Token} {d : Declaration} {body : Nat}

theorem ParameterOrder.hitsIn_sublist (h : IsDeclaration tokens d body) :
    ((hitsIn tokens d).map (·.token)).Sublist (slice tokens d.start body) := by
  have hp := parameters_of_isDeclaration h
  unfold hitsIn interior
  generalize d.parameters tokens = r at hp ⊢
  cases hp with
  | absent => exact List.nil_sublist _
  | list first closed before =>
    have hname := h.start_lt_name
    have hopen := first.1.1
    simp only [Option.map_some, List.map_map]
    change ((lateFrom 0 false none _).map id).Sublist _
    rw [List.map_id]
    apply (lateFrom_sublist 0 false none _).trans
    exact List.filter_sublist.trans (slice_sublist_slice (by omega) (by omega))

theorem InheritsAcrossNamespaces.hitIn_sublist (h : IsDeclaration tokens d body) :
    ((hitIn tokens d).toList.map (·.token)).Sublist (slice tokens d.start body) := by
  cases hhit : hitIn tokens d with
  | none => exact List.nil_sublist _
  | some x =>
    obtain ⟨p, parent, hp, hparent, _, rfl⟩ := (hitIn_eq_some_iff h).mp hhit
    obtain ⟨hnp, hpb⟩ := hp.le_body h
    have hname := h.start_lt_name
    apply List.singleton_sublist.mpr
    exact mem_slice_iff.mpr ⟨p, by omega, hpb, hparent⟩

theorem VariableScope.hitsIn_sublist (extra : List String) :
    ((hitsIn extra tokens d).map (·.token)).Sublist (slice tokens d.start d.last) := by
  have hrefs : (references (d.tokens tokens 0)).Sublist (d.tokens tokens 0) :=
    (List.filter_sublist.map _).trans (occurrences_sublist _)
  simp only [hitsIn, List.map_map]
  change ((List.filter _ _).map id).Sublist _
  rw [List.map_id]
  exact List.filter_sublist.trans (hrefs.trans (tokens_sublist 0))

theorem Check.hitsIn_sublist (check : Check) (path : String) (h : IsDeclaration tokens d body) :
    ((check.hitsIn path tokens d).map (·.token)).Sublist
      (slice tokens d.start (check.reach tokens d)) := by
  have hbody : (bodyOpen tokens d.name).getD d.last = body := by
    rw [bodyOpen_eq_some_iff.mpr h.body_first, Option.getD_some]
  cases check with
  | rightToLeft => exact List.nil_sublist _
  | autoloaderLayout extension =>
    simp only [hitsIn, reach]
    split
    · exact List.nil_sublist _
    · obtain ⟨name, hname, _⟩ := h.significantAt_name
      have hmem : name ∈ slice tokens d.start d.name :=
        mem_slice_iff.mpr ⟨d.name, h.start_lt_name.le, le_rfl, hname⟩
      simp only [hname, Option.bind_some, AutoloaderLayout.hit?]
      split
      · exact List.nil_sublist _
      · exact List.singleton_sublist.mpr hmem
  | parameterOrder =>
    rw [reach, hbody]
    exact ParameterOrder.hitsIn_sublist h
  | inheritsAcrossNamespaces =>
    simp only [hitsIn, reach, hbody]
    split
    · exact InheritsAcrossNamespaces.hitIn_sublist h
    · exact List.nil_sublist _
  | nestedDeclarations =>
    simp only [hitsIn, reach]
    split
    · exact (NestedDeclarations.hitsAmong_sublist _).trans (tokens_sublist 1)
    · exact List.nil_sublist _
  | variableScope extra => exact VariableScope.hitsIn_sublist extra

end Reach

section Order

variable {tokens : List Token}

theorem before_of_mem_slice (h : tokens.Pairwise Before) {t u : Token} {a b c e : Nat}
    (ht : t ∈ slice tokens a b) (hu : u ∈ slice tokens c e) (hbc : b < c) : t.Before u := by
  obtain ⟨i, _, hib, hi⟩ := mem_slice_iff.mp ht
  obtain ⟨j, hcj, _, hj⟩ := mem_slice_iff.mp hu
  obtain ⟨hil, rfl⟩ := List.getElem?_eq_some_iff.mp hi
  obtain ⟨hjl, rfl⟩ := List.getElem?_eq_some_iff.mp hj
  exact List.pairwise_iff_getElem.mp h i j hil hjl (by omega)

theorem pairwise_map_finding (r : Rule) (path : String) (h : tokens.Pairwise Before)
    {hits : List Hit} (hs : (hits.map (·.token)).Sublist tokens) :
    (hits.map (r.finding path)).Pairwise Finding.AtOrBefore := by
  rw [List.pairwise_map]
  exact (List.pairwise_map.mp (h.sublist hs)).imp (r.atOrBefore_of_before path)

def findingsIn (r : Rule) (path : String) (tokens : List Token) (d : Declaration) : List Finding :=
  (r.check.hitsIn path tokens d).map (r.finding path)

theorem findings_eq (r : Rule) (path : String) (tokens : List Token) :
    r.findings ⟨path, tokens⟩ = (r.check.looseHits tokens).map (r.finding path) ++
      (locate tokens).flatMap (r.findingsIn path tokens) := by
  rw [findings, Check.hits_eq, List.map_append, List.map_flatMap]
  rfl

theorem findings_eq_flatMap {r : Rule} (h : r.check ≠ .rightToLeft) (path : String)
    (tokens : List Token) :
    r.findings ⟨path, tokens⟩ = (locate tokens).flatMap (r.findingsIn path tokens) := by
  have hloose : r.check.looseHits tokens = [] := by
    unfold Check.looseHits
    split
    next hcheck => exact absurd hcheck h
    next => rfl
  rw [findings_eq, hloose, List.map_nil, List.nil_append]

/-- The order of the findings is broken only by findings of an earlier declaration that stand
behind findings of a later one. -/
theorem inOrder_iff (r : Rule) (path : String) (h : tokens.Pairwise Before) :
    r.InOrder ⟨path, tokens⟩ ↔
      ∀ d ∈ locate tokens, ∀ e ∈ locate tokens, d.start < e.start →
        ∀ f ∈ r.findingsIn path tokens d, ∀ f' ∈ r.findingsIn path tokens e, f.AtOrBefore f' := by
  have hinside : ∀ d ∈ locate tokens,
      (r.findingsIn path tokens d).Pairwise Finding.AtOrBefore := by
    intro d hd
    obtain ⟨body, hdecl⟩ := mem_locate_iff.mp hd
    apply r.pairwise_map_finding path h
    exact (r.check.hitsIn_sublist path hdecl).trans
      ((List.take_sublist _ _).trans (List.drop_sublist _ _))
  have hflat : ((locate tokens).flatMap (r.findingsIn path tokens)).Pairwise Finding.AtOrBefore ↔
      (locate tokens).Pairwise fun d e ↦
        ∀ f ∈ r.findingsIn path tokens d, ∀ f' ∈ r.findingsIn path tokens e, f.AtOrBefore f' := by
    rw [List.pairwise_flatMap, and_iff_right hinside]
  rw [← pairwise_locate_iff, ← hflat, InOrder, findings_eq]
  -- only relationships are reported outside of declarations, and they only there
  cases hcheck : r.check with
  | rightToLeft =>
    have hnone : (locate tokens).flatMap (r.findingsIn path tokens) = [] := by
      simp [findingsIn, hcheck, Check.hitsIn]
    have hloose : (Check.looseHits tokens .rightToLeft).map (·.token) =
        tokens.filter (·.kind == .outEdge) := by
      simp only [Check.looseHits, RightToLeft.hits, List.map_map]
      exact List.map_id _
    rw [hnone, List.append_nil, iff_true_right List.Pairwise.nil]
    exact r.pairwise_map_finding path h (hloose ▸ List.filter_sublist)
  | _ => rfl

theorem inOrder_of_apart (r : Rule) (path : String) (h : tokens.Pairwise Before)
    (hapart : r.check.Apart tokens) : r.InOrder ⟨path, tokens⟩ := by
  refine (r.inOrder_iff path h).mpr fun d hd e he hlt f hf f' hf' ↦ ?_
  obtain ⟨_, hdecl⟩ := mem_locate_iff.mp hd
  obtain ⟨_, hdecl'⟩ := mem_locate_iff.mp he
  obtain ⟨x, hx, rfl⟩ := List.mem_map.mp hf
  obtain ⟨y, hy, rfl⟩ := List.mem_map.mp hf'
  have hx := (r.check.hitsIn_sublist path hdecl).subset (List.mem_map_of_mem hx)
  have hy := (r.check.hitsIn_sublist path hdecl').subset (List.mem_map_of_mem hy)
  exact r.atOrBefore_of_before path (before_of_mem_slice h hx hy (hapart d hd e he hlt))

theorem Check.apart_rightToLeft (tokens : List Token) : Check.rightToLeft.Apart tokens :=
  fun _ _ _ _ hlt ↦ hlt

theorem Check.apart_autoloaderLayout (extension : String) (tokens : List Token) :
    (Check.autoloaderLayout extension).Apart tokens := by
  intro d hd e he hlt
  obtain ⟨_, hdecl⟩ := mem_locate_iff.mp hd
  obtain ⟨_, hdecl'⟩ := mem_locate_iff.mp he
  exact hdecl.name_lt_start hdecl' hlt

/-- A rule reports in the order of the source exactly if no finding in a declaration stands behind
a finding in a later declaration. So it is whenever no declaration begins where the rule still
reports something of an earlier one, and always so for relationships and for the layout. -/
theorem findings_in_order (r : Rule) (path : String) (tokens : List Token)
    (h : tokens.Pairwise Before) :
    (r.InOrder ⟨path, tokens⟩ ↔
      ∀ d ∈ locate tokens, ∀ e ∈ locate tokens, d.start < e.start →
        ∀ f ∈ r.findingsIn path tokens d, ∀ f' ∈ r.findingsIn path tokens e,
          f.AtOrBefore f') ∧
    (r.check.Apart tokens → r.InOrder ⟨path, tokens⟩) ∧
    (r.check = .rightToLeft ∨ (∃ extension, r.check = .autoloaderLayout extension) →
      r.InOrder ⟨path, tokens⟩) := by
  refine ⟨r.inOrder_iff path h, r.inOrder_of_apart path h, fun hcheck ↦ ?_⟩
  apply r.inOrder_of_apart path h
  rcases hcheck with hcheck | ⟨extension, hcheck⟩
  · rw [hcheck]
    exact Check.apart_rightToLeft tokens
  · rw [hcheck]
    exact Check.apart_autoloaderLayout extension tokens

/-- A late parameter in a class, and one in a defined type in its body. -/
theorem findings_in_order_nested :
    let tokens := inLine [.classWord, .name, .leftParen, .variable, .equals, .number, .comma,
      .variable, .rightParen, .leftBrace, .defineWord, .name, .leftParen, .variable, .equals,
      .number, .comma, .variable, .rightParen, .leftBrace, .rightBrace, .rightBrace]
    let r := Check.parameterOrder.toRule
    tokens.Pairwise Before ∧ r.check.Apart tokens ∧ (r.findings ⟨"", tokens⟩).length = 2 ∧
      r.InOrder ⟨"", tokens⟩ := by
  intro tokens r
  have h : tokens.Pairwise Before := by decide
  have hapart : r.check.Apart tokens := by decide
  exact ⟨h, hapart, by decide, (r.findings_in_order "" tokens h).2.1 hapart⟩

/-- Declarations inside others. In the first stream a class stands in a class, and each holds a
`define` and a variable; in the second one a class stands among the parameters of another. Each
time something of the outer class is reported before something of the inner one that stands in
front of it. -/
theorem findings_out_of_order :
    let inBody := inLine [.classWord, .name, .leftBrace, .classWord, .name, .leftBrace,
      .defineWord, .variable, .rightBrace, .defineWord, .variable, .rightBrace]
    let inHeader := inLine [.classWord, .name, .leftParen, .variable, .equals, .number, .comma,
      .classWord, .name, .leftParen, .variable, .equals, .number, .comma, .variable, .rightParen,
      .inheritsWord, .name, .leftBrace, .rightBrace, .comma, .variable, .rightParen,
      .inheritsWord, .name, .leftBrace, .rightBrace]
    (inBody.Pairwise Before ∧ ¬ Check.nestedDeclarations.toRule.InOrder ⟨"", inBody⟩ ∧
        ¬ (Check.variableScope []).toRule.InOrder ⟨"", inBody⟩) ∧
      inHeader.Pairwise Before ∧ ¬ Check.parameterOrder.toRule.InOrder ⟨"", inHeader⟩ ∧
        ¬ Check.inheritsAcrossNamespaces.toRule.InOrder ⟨"", inHeader⟩ := by
  decide

end Order

end Rule

end ManifestLint
