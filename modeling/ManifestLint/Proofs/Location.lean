import ManifestLint.Declaration
import ManifestLint.Proofs.Balance

namespace ManifestLint.Declaration

open Token Stream

def Kind.keyword : Kind → Token.Kind
  | .classDecl => .classWord
  | .definedType => .defineWord

theorem Kind.ofKeyword?_eq_some_iff {word : Token.Kind} {kind : Kind} :
    ofKeyword? word = some kind ↔ word = kind.keyword := by
  unfold ofKeyword? keyword
  constructor
  · intro h
    split at h
    · cases h; rfl
    · cases h; rfl
    · cases h
  · intro h
    subst h
    cases kind <;> rfl

/-- A brace behind the name at `n` and outside parentheses: from the name on, closing parentheses
never outnumber opening ones, and all are closed at the brace. -/
structure OpensBody (tokens : List Token) (n b : Nat) : Prop where
  lt : n < b
  brace : kindAt tokens b = some .leftBrace
  even : Delimiter.paren.balance (slice tokens (n + 1) b) = 0
  inside : ∀ k, n < k → k ≤ b → 0 ≤ Delimiter.paren.balance (slice tokens (n + 1) k)

/-- A declaration with its body opened at `body`, described without a search. -/
structure IsDeclaration (tokens : List Token) (d : Declaration) (body : Nat) : Prop where
  keyword : kindAt tokens d.start = some d.kind.keyword
  name_next : IsLeast {j | d.start < j ∧ SignificantAt tokens j} d.name
  name_kind : kindAt tokens d.name = some .name
  body_first : IsLeast {b | OpensBody tokens d.name b} body
  closed : Delimiter.brace.Closes tokens body d.last

section Body

variable {tokens : List Token} {base : Int} {n i b : Nat}

/-- The first brace from `i` on at the height `base`, with no lower place before it. -/
structure FirstBrace (tokens : List Token) (base : Int) (i b : Nat) : Prop where
  le : i ≤ b
  brace : kindAt tokens b = some .leftBrace
  level : Delimiter.paren.height tokens b = base
  above : ∀ k, i ≤ k → k ≤ b → base ≤ Delimiter.paren.height tokens k
  first : ∀ j, i ≤ j → j < b → kindAt tokens j = some .leftBrace →
    Delimiter.paren.height tokens j ≠ base

theorem firstBrace_iff_eq (hbrace : kindAt tokens i = some .leftBrace)
    (hlevel : Delimiter.paren.height tokens i = base) : FirstBrace tokens base i b ↔ i = b := by
  constructor
  · intro h
    by_contra hne
    have hle := h.le
    exact h.first i le_rfl (by omega) hbrace hlevel
  · intro he
    subst he
    refine ⟨le_rfl, hbrace, hlevel, fun k hik hki ↦ ?_, fun j hij hji ↦ by omega⟩
    obtain rfl : i = k := le_antisymm hik hki
    exact hlevel.ge

theorem firstBrace_succ_iff (habove : base ≤ Delimiter.paren.height tokens i)
    (hnot : kindAt tokens i = some .leftBrace → Delimiter.paren.height tokens i ≠ base) :
    FirstBrace tokens base (i + 1) b ↔ FirstBrace tokens base i b := by
  constructor
  · intro h
    refine ⟨by have := h.le; omega, h.brace, h.level, fun k hik hkb ↦ ?_, fun j hij hjb ↦ ?_⟩
    · rcases hik.eq_or_lt with rfl | hlt
      · exact habove
      · exact h.above k hlt hkb
    · rcases hij.eq_or_lt with rfl | hlt
      · exact hnot
      · exact h.first j hlt hjb
  · intro h
    have hne : i ≠ b := by
      intro he
      subst he
      exact hnot h.brace h.level
    exact ⟨by have := h.le; omega, h.brace, h.level, fun k hik ↦ h.above k (by omega),
      fun j hij ↦ h.first j (by omega)⟩

/-- The search for the body, in `depth` parentheses, stops at the first brace outside them and at no
place below. -/
theorem bodyFrom_eq_some_iff {depth : Nat}
    (hdepth : Delimiter.paren.height tokens i = base + depth) :
    bodyFrom depth i (tokens.drop i) = some b ↔ FirstBrace tokens base i b := by
  generalize hl : tokens.drop i = l
  induction l generalizing depth i with
  | nil =>
    have hlen : tokens.length ≤ i := List.drop_eq_nil_iff.mp hl
    have hf : ¬ FirstBrace tokens base i b := fun h ↦
      absurd (lt_length_of_kindAt h.brace) (by have := h.le; omega)
    simp only [bodyFrom, reduceCtorEq, hf]
  | cons t l ih =>
    obtain ⟨ht, hl⟩ := getElem?_of_drop_eq_cons hl
    have hstep := Delimiter.paren.height_succ ht
    have hkind := kindAt_of_getElem? ht
    have habove : base ≤ Delimiter.paren.height tokens i := by omega
    rw [bodyFrom.eq_def]
    dsimp only
    by_cases ho : t.kind = .leftParen
    · have hnot : kindAt tokens i ≠ some .leftBrace := by simp [hkind, ho]
      rw [Delimiter.weight_opener ho] at hstep
      rw [if_pos ho, ih (by omega) hl, firstBrace_succ_iff habove (fun h ↦ absurd h hnot)]
    · rw [if_neg ho]
      by_cases hc : t.kind = .rightParen
      · have hnot : kindAt tokens i ≠ some .leftBrace := by simp [hkind, hc]
        rw [Delimiter.weight_closer hc] at hstep
        rw [if_pos hc]
        cases depth with
        | zero =>
          have hf : ¬ FirstBrace tokens base i b := by
            intro h
            have hne : i ≠ b := fun he ↦ hnot (he ▸ h.brace)
            have hle := h.le
            have hlow := h.above (i + 1) (by omega) (by omega)
            omega
          simp only [reduceCtorEq, hf]
        | succ depth =>
          simp only
          rw [ih (by omega) hl, firstBrace_succ_iff habove (fun h ↦ absurd h hnot)]
      · rw [if_neg hc]
        rw [Delimiter.weight_other ho hc] at hstep
        by_cases hb : t.kind = .leftBrace ∧ depth = 0
        · rw [if_pos hb, Option.some_inj,
            firstBrace_iff_eq (hkind.trans (congrArg some hb.1)) (by omega)]
        · rw [if_neg hb, ih (by omega) hl, firstBrace_succ_iff habove]
          intro h hlevel
          rw [hkind, Option.some_inj] at h
          exact hb ⟨h, by omega⟩

theorem opensBody_iff_height : OpensBody tokens n b ↔ n < b ∧ kindAt tokens b = some .leftBrace ∧
    Delimiter.paren.height tokens b = Delimiter.paren.height tokens (n + 1) ∧
    ∀ k, n < k → k ≤ b →
      Delimiter.paren.height tokens (n + 1) ≤ Delimiter.paren.height tokens k := by
  have hflat (h : kindAt tokens b = some .leftBrace) :
      Delimiter.paren.height tokens (b + 1) = Delimiter.paren.height tokens b :=
    Delimiter.height_succ_of_kindAt h (by decide) (by decide)
  constructor
  · intro h
    obtain ⟨hlt, hbrace, heven, hinside⟩ := h
    rw [Delimiter.balance_slice (by omega), hflat hbrace] at heven
    refine ⟨hlt, hbrace, by omega, fun k hnk hkb ↦ ?_⟩
    rcases (Nat.succ_le_of_lt hnk).eq_or_lt with rfl | hk
    · exact le_rfl
    · have h := hinside (k - 1) (by omega) (by omega)
      rw [Delimiter.balance_slice (by omega), Nat.sub_add_cancel (by omega)] at h
      omega
  · intro h
    obtain ⟨hlt, hbrace, heven, hinside⟩ := h
    refine ⟨hlt, hbrace, ?_, fun k hnk hkb ↦ ?_⟩
    · rw [Delimiter.balance_slice (by omega), hflat hbrace]
      omega
    · rw [Delimiter.balance_slice (by omega)]
      rcases hkb.eq_or_lt with rfl | hk
      · rw [hflat hbrace]
        omega
      · have h := hinside (k + 1) (by omega) hk
        omega

theorem bodyOpen_eq_some_iff :
    bodyOpen tokens n = some b ↔ IsLeast {b | OpensBody tokens n b} b := by
  have hbase : Delimiter.paren.height tokens (n + 1) =
      Delimiter.paren.height tokens (n + 1) + (0 : Nat) := by simp
  rw [bodyOpen, bodyFrom_eq_some_iff hbase]
  constructor
  · intro h
    refine ⟨opensBody_iff_height.mpr ⟨h.le, h.brace, h.level, h.above⟩, fun j hj ↦ ?_⟩
    obtain ⟨hnj, hbrace, hlevel, _⟩ := opensBody_iff_height.mp hj
    by_contra! hlt
    exact h.first j hnj hlt hbrace hlevel
  · intro h
    obtain ⟨hopen, hleast⟩ := h
    obtain ⟨hlt, hbrace, hlevel, habove⟩ := opensBody_iff_height.mp hopen
    refine ⟨hlt, hbrace, hlevel, habove, fun j hnj hjb hj hjl ↦ ?_⟩
    have hmem : OpensBody tokens n j := opensBody_iff_height.mpr
      ⟨hnj, hj, hjl, fun k hnk hkj ↦ habove k hnk (by omega)⟩
    have h := hleast hmem
    omega

end Body

section Search

variable {tokens : List Token} {keyword : Token} {d : Declaration} {i body : Nat}

theorem examine_eq_ok_iff (hi : tokens[i]? = some keyword) :
    examine tokens keyword i = some (.ok d) ↔
      d.start = i ∧ ∃ body, IsDeclaration tokens d body := by
  unfold examine
  simp only [bind, Option.bind_eq_some_iff]
  constructor
  · intro h
    obtain ⟨kind, hkind, n, hn, name, hname, h⟩ := h
    by_cases hk : name.kind = .name
    · rw [if_pos hk] at h
      cases hbody : bodyOpen tokens n with
      | none => simp [hbody] at h
      | some body =>
        cases hlast : Delimiter.brace.matchingClose tokens body with
        | error cause => simp [hbody, hlast] at h
        | ok last =>
          simp only [hbody, hlast, Option.some.injEq, Except.ok.injEq] at h
          subst h
          refine ⟨rfl, body, ?_, nextSignificant_eq_some_iff.mp hn, ?_,
            bodyOpen_eq_some_iff.mp hbody, Delimiter.matchingClose_eq_ok_iff.mp hlast⟩
          · rw [kindAt_of_getElem? hi, Kind.ofKeyword?_eq_some_iff.mp hkind]
          · rw [kindAt_of_getElem? hname, hk]
    · rw [if_neg hk] at h
      cases h
  · intro h
    obtain ⟨hstart, body, h⟩ := h
    subst hstart
    have hkind : keyword.kind = d.kind.keyword := by
      simpa only [kindAt_of_getElem? hi, Option.some_inj] using h.keyword
    obtain ⟨name, hname, hk⟩ := kindAt_eq_some_iff.mp h.name_kind
    refine ⟨d.kind, Kind.ofKeyword?_eq_some_iff.mpr hkind, d.name,
      nextSignificant_eq_some_iff.mpr h.name_next, name, hname, ?_⟩
    rw [if_pos hk, bodyOpen_eq_some_iff.mpr h.body_first]
    simp only [Delimiter.matchingClose_eq_ok_iff.mpr h.closed]

theorem locate_eq_filterMap (tokens : List Token) : locate tokens =
    tokens.zipIdx.filterMap (fun p ↦ (examine tokens p.1 p.2).bind Except.toOption) := by
  rw [locate, examineAll, List.filterMap_filterMap]

theorem bind_toOption_eq_some_iff {e : Option (Except Event Declaration)} :
    e.bind Except.toOption = some d ↔ e = some (.ok d) := by
  cases e with
  | none => simp
  | some e =>
    cases e with
    | error event => simp [Except.toOption]
    | ok d' => simp [Except.toOption]

theorem examine_of_mem_zipIdx {p : Token × Nat} (hp : p ∈ tokens.zipIdx)
    (hd : (examine tokens p.1 p.2).bind Except.toOption = some d) :
    d.start = p.2 ∧ ∃ body, IsDeclaration tokens d body :=
  (examine_eq_ok_iff (List.mem_zipIdx_iff_getElem?.mp hp)).mp (bind_toOption_eq_some_iff.mp hd)

/-- The search reports all declarations and nothing else. -/
theorem mem_locate_iff : d ∈ locate tokens ↔ ∃ body, IsDeclaration tokens d body := by
  rw [locate_eq_filterMap, List.mem_filterMap]
  constructor
  · intro h
    obtain ⟨p, hp, hd⟩ := h
    exact (examine_of_mem_zipIdx hp hd).2
  · intro h
    obtain ⟨body, h⟩ := h
    obtain ⟨keyword, hi, _⟩ := kindAt_eq_some_iff.mp h.keyword
    have hok := (examine_eq_ok_iff hi).mpr ⟨rfl, body, h⟩
    exact ⟨(keyword, d.start), List.mem_zipIdx_iff_getElem?.mpr hi,
      bind_toOption_eq_some_iff.mpr hok⟩

theorem pairwise_zipIdx (l : List Token) (i : Nat) :
    (l.zipIdx i).Pairwise (fun p q ↦ p.2 < q.2) := by
  induction l generalizing i with
  | nil => exact .nil
  | cons t l ih =>
    rw [List.zipIdx_cons]
    exact .cons (fun p hp ↦ List.le_snd_of_mem_zipIdx hp) (ih (i + 1))

theorem locate_pairwise (tokens : List Token) :
    (locate tokens).Pairwise (fun d e ↦ d.start < e.start) := by
  rw [locate_eq_filterMap, List.pairwise_filterMap]
  refine (pairwise_zipIdx tokens 0).imp_of_mem ?_
  intro p q hp hq hlt d hd e he
  rw [(examine_of_mem_zipIdx hp hd).1, (examine_of_mem_zipIdx hq he).1]
  exact hlt

theorem IsDeclaration.start_lt_name (h : IsDeclaration tokens d body) : d.start < d.name :=
  h.name_next.1.1

theorem IsDeclaration.name_lt_body (h : IsDeclaration tokens d body) : d.name < body :=
  h.body_first.1.lt

theorem IsDeclaration.body_lt_last (h : IsDeclaration tokens d body) : body < d.last := h.closed.lt

theorem IsDeclaration.start_le_last (h : IsDeclaration tokens d body) : d.start ≤ d.last :=
  (h.start_lt_name.trans (h.name_lt_body.trans h.body_lt_last)).le

theorem IsDeclaration.significantAt_start (h : IsDeclaration tokens d body) :
    SignificantAt tokens d.start :=
  significantAt_of_kindAt h.keyword (by cases d.kind <;> rfl)

theorem IsDeclaration.significantAt_name (h : IsDeclaration tokens d body) :
    SignificantAt tokens d.name := h.name_next.1.2

theorem OpensBody.significantAt {n b : Nat} (h : OpensBody tokens n b) : SignificantAt tokens b :=
  significantAt_of_kindAt h.brace rfl

theorem IsDeclaration.significantAt_body (h : IsDeclaration tokens d body) :
    SignificantAt tokens body := h.body_first.1.significantAt

theorem IsDeclaration.significantAt_last (h : IsDeclaration tokens d body) :
    SignificantAt tokens d.last :=
  significantAt_of_kindAt h.closed.kindAt rfl

theorem locate_filter_length (tokens : List Token) :
    (locate tokens).filter (fun d ↦ 0 ≤ d.start ∧ d.last < tokens.length) = locate tokens := by
  rw [List.filter_eq_self]
  intro d hd
  obtain ⟨body, h⟩ := mem_locate_iff.mp hd
  exact decide_eq_true ⟨Nat.zero_le _, h.closed.lt_length⟩

theorem eq_of_pairwise_of_mem_iff {l m : List Declaration}
    (hl : l.Pairwise (fun d e ↦ d.start < e.start)) (hm : m.Pairwise (fun d e ↦ d.start < e.start))
    (h : ∀ d, d ∈ l ↔ d ∈ m) : l = m := by
  have hnodup {l : List Declaration} (hl : l.Pairwise (fun d e ↦ d.start < e.start)) : l.Nodup := by
    refine hl.imp ?_
    intro d e hlt he
    subst he
    omega
  have hperm := (List.perm_ext_iff_of_nodup (hnodup hl) (hnodup hm)).mpr h
  exact hperm.eq_of_pairwise (fun d e _ _ hde hed ↦ by omega) hl hm

/-- The search for declarations finds exactly what a declaration is by definition, in the order of
the keywords and each declaration once. The places of a declaration lie in the stream in the
order in which they are named. -/
theorem locate_exact (tokens : List Token) :
    (locate tokens).Pairwise (fun d e ↦ d.start < e.start) ∧
      (∀ d, d ∈ locate tokens ↔ ∃ body, IsDeclaration tokens d body) ∧
      ∀ d body, IsDeclaration tokens d body → d.start < d.name ∧ d.name < body ∧ body < d.last ∧
        d.last < tokens.length ∧ kindAt tokens d.last = some .rightBrace :=
  ⟨locate_pairwise tokens, fun _ ↦ mem_locate_iff, fun _ _ h ↦
    ⟨h.start_lt_name, h.name_lt_body, h.body_lt_last, h.closed.lt_length, h.closed.kindAt⟩⟩

/-- A brace between the parentheses does not open the body. -/
theorem locate_exact_parameters :
    let tokens := ofKinds [.classWord, .whitespace, .name, .leftParen, .leftBrace, .rightBrace,
      .rightParen, .leftBrace, .rightBrace]
    (∃ body, IsDeclaration tokens ⟨.classDecl, 0, 2, 8⟩ body ∧ 2 < body ∧ body < 8) ∧
      ¬ ∃ body, IsDeclaration tokens ⟨.classDecl, 0, 2, 5⟩ body := by
  intro tokens
  have h := locate_exact tokens
  obtain ⟨body, hbody⟩ := (h.2.1 ⟨.classDecl, 0, 2, 8⟩).mp (by decide)
  have hplaces := h.2.2 _ _ hbody
  exact ⟨⟨body, hbody, hplaces.2.1, hplaces.2.2.1⟩,
    fun hno ↦ absurd ((h.2.1 ⟨.classDecl, 0, 2, 5⟩).mpr hno) (by decide)⟩

end Search

end ManifestLint.Declaration
