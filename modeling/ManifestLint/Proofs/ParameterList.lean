import ManifestLint.Declaration
import ManifestLint.Proofs.Location

namespace ManifestLint.Declaration

open Token Stream

def headParens (tokens : List Token) (d : Declaration) (body : Nat) : Set Nat :=
  {j | d.name < j ∧ j < body ∧ kindAt tokens j = some .leftParen}

/-- What the search for parameters comes to. -/
inductive Parameters (tokens : List Token) (d : Declaration) (body : Nat) :
    Option (Nat × Nat) → Prop
  | absent (h : headParens tokens d body = ∅) : Parameters tokens d body none
  | list {o k : Nat} (first : IsLeast (headParens tokens d body) o)
      (closed : Delimiter.paren.Closes tokens o k) (before : k < body) :
      Parameters tokens d body (some (o, k))

/-- Where and why the search for a parameter list ends: at a brace, at a parenthesis that closes
nothing, with a list, at a list that goes on too far or is never closed, or with the stretch. -/
inductive Ending where
  | brace (i : Nat)
  | stray (t : Token)
  | list (o k : Nat)
  | tooLong (o k : Nat)
  | unclosed (cause : Delimiter.Imbalance)
  | exhausted
deriving DecidableEq, Repr

def endingFrom (stream : List Token) (last i : Nat) : List Token → Ending
  | [] => .exhausted
  | t :: rest =>
    if t.kind = .leftBrace then .brace i
    else if t.kind = .rightParen then .stray t
    else if t.kind = .leftParen then
      match Delimiter.paren.matchingClose stream i with
      | .ok close => if close ≤ last then .list i close else .tooLong i close
      | .error cause => .unclosed cause
    else endingFrom stream last (i + 1) rest

def ending (d : Declaration) (stream : List Token) : Ending :=
  endingFrom stream d.last (d.name + 1) (slice stream (d.name + 1) d.last)

namespace Ending

def result : Ending → Except Event (Option (Nat × Nat))
  | .list o k => .ok (some (o, k))
  | .stray t => .error (.strayParen t.line t.column)
  | .unclosed cause => .error (.parametersUnclosed cause)
  | .brace _ | .tooLong _ _ | .exhausted => .ok none

def proper (body : Nat) : Option (Nat × Nat) → Ending
  | none => .brace body
  | some r => .list r.1 r.2

@[simp]
theorem result_proper (body : Nat) (r : Option (Nat × Nat)) : (proper body r).result = .ok r := by
  cases r <;> rfl

end Ending

theorem result_endingFrom (stream : List Token) (last i : Nat) (l : List Token) :
    (endingFrom stream last i l).result = parametersFrom stream last i l := by
  fun_induction endingFrom stream last i l with
  | case1 => rfl
  | case2 i t rest hb => rw [parametersFrom, if_pos hb, Ending.result]
  | case3 i t rest hb hc => rw [parametersFrom, if_neg hb, if_pos hc, Ending.result]
  | case4 i t rest hb hc ho close hclose hle =>
    simp only [parametersFrom, if_neg hb, if_neg hc, if_pos ho, hclose, if_pos hle, Ending.result]
  | case5 i t rest hb hc ho close hclose hle =>
    simp only [parametersFrom, if_neg hb, if_neg hc, if_pos ho, hclose, if_neg hle, Ending.result]
  | case6 i t rest hb hc ho cause hclose =>
    simp only [parametersFrom, if_neg hb, if_neg hc, if_pos ho, hclose, Ending.result]
  | case7 i t rest hb hc ho ih => rw [ih, parametersFrom, if_neg hb, if_neg hc, if_neg ho]

theorem result_ending (d : Declaration) (stream : List Token) :
    (d.ending stream).result = searchParameters stream (d.name + 1) d.last :=
  result_endingFrom stream d.last (d.name + 1) _

variable {tokens : List Token} {d : Declaration} {body : Nat}

theorem endingFrom_of_isDeclaration (h : IsDeclaration tokens d body) {i : Nat}
    (hi : d.name < i) (hib : i ≤ body) (hnone : ∀ j ∈ headParens tokens d body, i ≤ j)
    (hlevel : Delimiter.paren.height tokens i = Delimiter.paren.height tokens (d.name + 1)) :
    ∃ r, endingFrom tokens d.last i (slice tokens i d.last) = .proper body r ∧
      Parameters tokens d body r := by
  obtain ⟨_, hbrace, hend, habove⟩ := opensBody_iff_height.mp h.body_first.1
  have hlast := h.body_lt_last
  generalize hn : body - i = n
  induction n generalizing i with
  | zero =>
    obtain rfl : i = body := by omega
    obtain ⟨t, ht, hk⟩ := kindAt_eq_some_iff.mp hbrace
    refine ⟨none, ?_, .absent ?_⟩
    · rw [slice_eq_cons ht (by omega), endingFrom, if_pos hk, Ending.proper]
    · refine Set.eq_empty_of_forall_notMem fun j hj ↦ ?_
      have hij := hnone j hj
      have hji := hj.2.1
      omega
  | succ n ih =>
    obtain ⟨t, ht⟩ : ∃ t, tokens[i]? = some t :=
      ⟨_, List.getElem?_eq_getElem (by have := h.closed.lt_length; omega)⟩
    have hkind := kindAt_of_getElem? ht
    have hstep := Delimiter.paren.height_succ ht
    rw [slice_eq_cons ht (by omega), endingFrom]
    by_cases hb : t.kind = .leftBrace
    · have hopen : OpensBody tokens d.name i := opensBody_iff_height.mpr
        ⟨hi, by rw [hkind, hb], hlevel, fun k hnk hki ↦ habove k hnk (by omega)⟩
      have hle := h.body_first.2 hopen
      omega
    · rw [if_neg hb]
      by_cases hc : t.kind = .rightParen
      · rw [Delimiter.weight_closer hc] at hstep
        have hlow := habove (i + 1) (by omega) (by omega)
        omega
      · rw [if_neg hc]
        by_cases ho : t.kind = .leftParen
        · have hopen : kindAt tokens i = some Delimiter.paren.opener := by rw [hkind, ho]; rfl
          obtain ⟨k, hclosed, hkb⟩ := Delimiter.exists_closes (b := body) hopen (by omega)
            (by omega)
          refine ⟨some (i, k), ?_, .list ⟨⟨hi, by omega, hopen⟩, hnone⟩ hclosed hkb⟩
          rw [if_pos ho, Delimiter.matchingClose_eq_ok_iff.mpr hclosed]
          simp only
          rw [if_pos (by omega), Ending.proper]
        · rw [Delimiter.weight_other ho hc] at hstep
          rw [if_neg ho]
          refine ih (by omega) (by omega) (fun j hj ↦ ?_) (by omega) (by omega)
          have hij := hnone j hj
          have hne : j ≠ i := by
            intro he
            subst he
            obtain ⟨_, _, hparen⟩ := hj
            rw [hkind, Option.some_inj] at hparen
            exact ho hparen
          omega

/-- The search for the parameters of a declaration ends with a list or at the body. -/
theorem ending_of_isDeclaration (h : IsDeclaration tokens d body) :
    d.ending tokens = .proper body (d.parameters tokens) ∧
      Parameters tokens d body (d.parameters tokens) := by
  obtain ⟨r, hr, hp⟩ := endingFrom_of_isDeclaration h (Nat.lt_succ_self _) h.name_lt_body
    (fun _ hj ↦ hj.1) rfl
  have hend : d.ending tokens = .proper body r := hr
  have hr : d.parameters tokens = r := by
    rw [parameters, ← result_ending, hend, Ending.result_proper, found]
  rw [hr]
  exact ⟨hend, hp⟩

theorem parameters_of_isDeclaration (h : IsDeclaration tokens d body) :
    Parameters tokens d body (d.parameters tokens) := (ending_of_isDeclaration h).2

theorem Parameters.unique {r s : Option (Nat × Nat)} (hr : Parameters tokens d body r)
    (hs : Parameters tokens d body s) : r = s := by
  cases hr with
  | absent hempty =>
    cases hs with
    | absent => rfl
    | list first => exact absurd (hempty ▸ first.1) (Set.notMem_empty _)
  | list first closed =>
    cases hs with
    | absent hempty => exact absurd (hempty ▸ first.1) (Set.notMem_empty _)
    | list first' closed' =>
      obtain rfl := first.unique first'
      have hk := Delimiter.matchingClose_eq_ok_iff.mpr closed
      rw [Delimiter.matchingClose_eq_ok_iff.mpr closed'] at hk
      rw [Except.ok.inj hk]

/-- The search for the parameters and the search for the body agree. There is a parameter list
exactly if a parenthesis opens between name and body, and then it is the first such parenthesis with
the one that closes it, all in front of the body. The search meets no parenthesis that closes
nothing, no list that is never closed or only behind the declaration, and does not run out of
tokens. -/
theorem parameters_before_body (hd : d ∈ locate tokens) :
    ∃ body, bodyOpen tokens d.name = some body ∧
      (d.parameters tokens = none ↔
        ∀ j, d.name < j → j < body → kindAt tokens j ≠ some .leftParen) ∧
      (∀ o k, d.parameters tokens = some (o, k) →
        IsLeast {j | d.name < j ∧ kindAt tokens j = some .leftParen} o ∧
          Delimiter.paren.matchingClose tokens o = .ok k ∧
          d.name < o ∧ o < k ∧ k < body ∧ body < d.last) ∧
      (d.ending tokens).result = searchParameters tokens (d.name + 1) d.last ∧
      (d.ending tokens = .brace body ∨ ∃ o k, d.ending tokens = .list o k) := by
  obtain ⟨body, h⟩ := mem_locate_iff.mp hd
  obtain ⟨hend, hp⟩ := ending_of_isDeclaration h
  refine ⟨body, bodyOpen_eq_some_iff.mpr h.body_first, ?_, ?_, result_ending d tokens, ?_⟩
  · generalize d.parameters tokens = r at hp
    cases hp with
    | absent hempty =>
      refine iff_of_true rfl fun j hj hjb hopen ↦ ?_
      have hmem : j ∈ headParens tokens d body := ⟨hj, hjb, hopen⟩
      exact Set.notMem_empty j (hempty ▸ hmem)
    | list first =>
      obtain ⟨ho, hob, hopen⟩ := first.1
      exact iff_of_false (by simp) fun hnone ↦ hnone _ ho hob hopen
  · intro o k hr
    rw [hr] at hp
    cases hp with
    | list first closed before =>
      obtain ⟨ho, hob, hopen⟩ := first.1
      refine ⟨⟨⟨ho, hopen⟩, fun j hj ↦ ?_⟩, Delimiter.matchingClose_eq_ok_iff.mpr closed, ho,
        closed.lt, before, h.body_lt_last⟩
      rcases Nat.lt_or_ge j body with hjb | hbj
      · exact first.2 ⟨hj.1, hjb, hj.2⟩
      · omega
  · rw [hend]
    cases d.parameters tokens with
    | none => exact .inl rfl
    | some r => exact .inr ⟨r.1, r.2, rfl⟩

/-- Parentheses and a brace in the list, and a parenthesis in the body. -/
theorem parameters_before_body_nested :
    let tokens := ofKinds [.classWord, .name, .leftParen, .variable, .equals, .leftBrace,
      .leftParen, .rightParen, .rightBrace, .rightParen, .leftBrace, .leftParen, .rightBrace]
    let d : Declaration := ⟨.classDecl, 0, 1, 12⟩
    d ∈ locate tokens ∧ bodyOpen tokens d.name = some 10 ∧ d.parameters tokens = some (2, 9) ∧
      IsLeast {j | d.name < j ∧ kindAt tokens j = some .leftParen} 2 ∧
      Delimiter.paren.matchingClose tokens 2 = .ok 9 ∧
      ∃ o k, d.ending tokens = .list o k := by
  intro tokens d
  have hd : d ∈ locate tokens := by decide
  have hbody : bodyOpen tokens d.name = some 10 := by decide
  have hlist : d.parameters tokens = some (2, 9) := by decide
  obtain ⟨body, hopen, -, hsome, -, hend⟩ := parameters_before_body hd
  obtain ⟨hfirst, hclose, -⟩ := hsome 2 9 hlist
  refine ⟨hd, hbody, hlist, hfirst, hclose, hend.resolve_left fun hbrace ↦ ?_⟩
  have hresult := result_ending d tokens
  rw [hbrace] at hresult
  have hnone : d.parameters tokens = none := congrArg found hresult.symm
  exact absurd (hlist.symm.trans hnone) (by simp)

end ManifestLint.Declaration
