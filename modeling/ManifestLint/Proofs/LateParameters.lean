import ManifestLint.Proofs.SourceOrder
import Mathlib.Tactic.MkIffOfInductiveProp

namespace ManifestLint.Rule.ParameterOrder

open Token Stream Declaration

def between (tokens : List Token) (o k : Nat) : List Token :=
  ((tokens.take k).drop (o + 1)).filter isSignificant

/-- Opening minus closing brackets before an index. All kinds of brackets count alike. -/
def nesting (l : List Token) (i : Nat) : Int :=
  (l.take i).countP (isOpening ·.kind) - (l.take i).countP (isClosing ·.kind)

/-- A bracket that closes nothing. -/
def StrayAt (l : List Token) (i : Nat) : Prop :=
  (∃ kind ∈ kindAt l i, isClosing kind = true) ∧ nesting l i = 0

instance (l : List Token) (i : Nat) : Decidable (StrayAt l i) :=
  inferInstanceAs (Decidable ((∃ kind ∈ kindAt l i, isClosing kind = true) ∧ nesting l i = 0))

/-- An equals sign outside of all brackets, behind which a default stands. -/
def DefaultAt (l : List Token) (i : Nat) : Prop := kindAt l i = some .equals ∧ nesting l i = 0

instance (l : List Token) (i : Nat) : Decidable (DefaultAt l i) :=
  inferInstanceAs (Decidable (kindAt l i = some .equals ∧ nesting l i = 0))

/-- A variable outside of all brackets that a comma or the end of the list follows, that is not a
default itself, and that stands behind a default. -/
@[mk_iff]
structure Late (l : List Token) (i : Nat) : Prop where
  isVariable : kindAt l i = some .variable
  outside : nesting l i = 0
  ends : nextKind l i = none ∨ nextKind l i = some .comma
  required : prevKind l i ≠ some .equals
  behind : ∃ j < i, DefaultAt l j

instance (l : List Token) (i : Nat) : Decidable (Late l i) := decidable_of_iff' _ (late_iff ..)

def lateIn (l : List Token) : List Token := (l.zipIdx.filter fun p ↦ Late l p.2).map (·.1)

/-- The late parameters of a list before which no bracket is stray. -/
def reported (l : List Token) : List Token :=
  (l.zipIdx.filter fun p ↦ Late l p.2 ∧ ∀ j < p.2, ¬ StrayAt l j).map (·.1)

section Brackets

variable {kind : Token.Kind}

theorem of_isOpening (h : isOpening kind = true) :
    isClosing kind = false ∧ kind ≠ .equals ∧ kind ≠ .variable := by
  revert h
  cases kind <;> decide

theorem of_isClosing (h : isClosing kind = true) :
    isOpening kind = false ∧ kind ≠ .equals ∧ kind ≠ .variable := by
  revert h
  cases kind <;> decide

def weight (t : Token) : Int :=
  (if isOpening t.kind then 1 else 0) - (if isClosing t.kind then 1 else 0)

theorem weight_opening {t : Token} (h : isOpening t.kind = true) : weight t = 1 := by
  simp [weight, h, (of_isOpening h).1]

theorem weight_closing {t : Token} (h : isClosing t.kind = true) : weight t = -1 := by
  simp [weight, h, (of_isClosing h).1]

theorem weight_other {t : Token} (ho : isOpening t.kind = false) (hc : isClosing t.kind = false) :
    weight t = 0 := by
  simp [weight, ho, hc]

@[simp]
theorem nesting_zero (l : List Token) : nesting l 0 = 0 := rfl

theorem nesting_succ {l : List Token} {i : Nat} {t : Token} (h : l[i]? = some t) :
    nesting l (i + 1) = nesting l i + weight t := by
  simp only [nesting, List.take_add_one, h, Option.toList_some, List.countP_append,
    List.countP_singleton, weight, Nat.cast_add, Nat.cast_ite, Nat.cast_one, Nat.cast_zero]
  omega

theorem nesting_cons (t : Token) (l : List Token) (i : Nat) :
    nesting (t :: l) (i + 1) = weight t + nesting l i := by
  simp only [nesting, List.take_succ_cons, List.countP_cons, weight, Nat.cast_add, Nat.cast_ite,
    Nat.cast_one, Nat.cast_zero]
  omega

variable {t : Token} {rest : List Token} {depth : Nat} {seen : Bool} {previous : Option Token.Kind}

theorem lateFrom_opening (h : isOpening t.kind = true) :
    lateFrom depth seen previous (t :: rest) =
      lateFrom (depth + 1) seen (some t.kind) rest := by
  rw [lateFrom.eq_def]
  exact if_pos h

theorem lateFrom_closing (h : isClosing t.kind = true) :
    lateFrom (depth + 1) seen previous (t :: rest) = lateFrom depth seen (some t.kind) rest := by
  have ho := (of_isClosing h).1
  rw [lateFrom, if_neg (by simp [ho]), if_pos h]

theorem lateFrom_stray (h : isClosing t.kind = true) :
    lateFrom 0 seen previous (t :: rest) = [] := by
  have ho := (of_isClosing h).1
  rw [lateFrom, if_neg (by simp [ho]), if_pos h]

theorem lateFrom_inside (ho : isOpening t.kind = false) (hc : isClosing t.kind = false) :
    lateFrom (depth + 1) seen previous (t :: rest) =
      lateFrom (depth + 1) seen (some t.kind) rest := by
  rw [lateFrom, if_neg (by simp [ho]), if_neg (by simp [hc]), if_pos depth.succ_pos]

theorem lateFrom_equals (h : t.kind = .equals) :
    lateFrom 0 seen previous (t :: rest) = lateFrom 0 true (some t.kind) rest := by
  rw [lateFrom, if_neg (by simp [h, isOpening]), if_neg (by simp [h, isClosing]),
    if_neg (Nat.lt_irrefl 0), if_pos h]

theorem lateFrom_other (ho : isOpening t.kind = false) (hc : isClosing t.kind = false)
    (he : t.kind ≠ .equals) :
    lateFrom 0 seen previous (t :: rest) =
      (if seen && endsParameter previous t rest then [t] else []) ++
        lateFrom 0 seen (some t.kind) rest := by
  rw [lateFrom, if_neg (by simp [ho]), if_neg (by simp [hc]), if_neg (Nat.lt_irrefl 0), if_neg he]
  split <;> rfl

end Brackets

section Scan

variable {l : List Token} {t : Token} {i depth : Nat} {seen : Bool}

/-- The state of the check before the token at `i`: how many brackets are open, whether a default
has been seen, and that no bracket so far was stray. -/
structure Scanned (l : List Token) (i depth : Nat) (seen : Bool) : Prop where
  nesting_eq : nesting l i = depth
  seen_iff : seen = true ↔ ∃ j < i, DefaultAt l j
  clear : ∀ j < i, ¬ StrayAt l j

theorem scanned_zero (l : List Token) : Scanned l 0 0 false := ⟨rfl, by simp, by simp⟩

theorem Scanned.defaultAt_iff (h : Scanned l i depth seen) (ht : l[i]? = some t) :
    DefaultAt l i ↔ t.kind = .equals ∧ depth = 0 := by
  rw [DefaultAt, kindAt_of_getElem? ht, Option.some_inj, h.nesting_eq, Int.natCast_eq_zero]

theorem Scanned.strayAt_iff (h : Scanned l i depth seen) (ht : l[i]? = some t) :
    StrayAt l i ↔ isClosing t.kind = true ∧ depth = 0 := by
  rw [StrayAt, kindAt_of_getElem? ht, h.nesting_eq, Int.natCast_eq_zero]
  simp

theorem Scanned.late_iff (h : Scanned l i depth seen) (ht : l[i]? = some t) :
    Late l i ↔
      depth = 0 ∧ seen = true ∧ endsParameter (prevKind l i) t (l.drop (i + 1)) = true := by
  have hnext : ((l.drop (i + 1)).head?.all (·.kind == .comma)) = true ↔
      nextKind l i = none ∨ nextKind l i = some .comma := by
    rw [List.head?_drop, nextKind, kindAt]
    cases l[i + 1]? <;> simp
  rw [ParameterOrder.late_iff, kindAt_of_getElem? ht, Option.some_inj, h.nesting_eq, h.seen_iff,
    endsParameter, Bool.and_eq_true, Bool.and_eq_true, hnext, beq_iff_eq, bne_iff_ne,
    Int.natCast_eq_zero]
  tauto

theorem Scanned.succ (h : Scanned l i depth seen) (ht : l[i]? = some t) {depth' : Nat}
    {seen' : Bool} (hdepth : (depth : Int) + weight t = depth')
    (hseen : seen' = true ↔ seen = true ∨ t.kind = .equals ∧ depth = 0)
    (hclear : isClosing t.kind = true → 0 < depth) : Scanned l (i + 1) depth' seen' where
  nesting_eq := by rw [nesting_succ ht, h.nesting_eq, hdepth]
  seen_iff := by rw [hseen, h.seen_iff, ← h.defaultAt_iff ht, Nat.exists_lt_succ_right]
  clear := by
    refine Nat.forall_lt_succ_right.mpr ⟨h.clear, fun hstray ↦ ?_⟩
    obtain ⟨hc, hzero⟩ := (h.strayAt_iff ht).mp hstray
    have hpos := hclear hc
    omega

theorem StrayAt.not_late (h : StrayAt l i) : ¬ Late l i := by
  intro hlate
  obtain ⟨⟨kind, hkind, hclosing⟩, _⟩ := h
  exact (of_isClosing hclosing).2.2 (Option.some.inj (hkind.symm.trans hlate.isVariable))

/-- One step of the run: a stray bracket ends it, and behind any other token the state is right
again. -/
theorem Scanned.step {rest : List Token} (h : Scanned l i depth seen) (hl : l.drop i = t :: rest) :
    (StrayAt l i ∧ lateFrom depth seen (prevKind l i) (t :: rest) = []) ∨
    ∃ depth' seen', Scanned l (i + 1) depth' seen' ∧
      lateFrom depth seen (prevKind l i) (t :: rest) =
        (if Late l i then [t] else []) ++ lateFrom depth' seen' (some t.kind) rest := by
  obtain ⟨ht, hrest⟩ := getElem?_of_drop_eq_cons hl
  have hlate := h.late_iff ht
  rw [hrest, endsParameter] at hlate
  cases ho : isOpening t.kind with
  | true =>
    obtain ⟨hc, he, hv⟩ := of_isOpening ho
    refine .inr ⟨depth + 1, seen, ?_, ?_⟩
    · exact h.succ ht (by simp [weight_opening ho]) (by simp [he]) (by simp [hc])
    · rw [lateFrom_opening ho, if_neg (by simp [hlate, hv]), List.nil_append]
  | false =>
    cases hc : isClosing t.kind with
    | true =>
      obtain ⟨-, he, hv⟩ := of_isClosing hc
      cases depth with
      | zero => exact .inl ⟨(h.strayAt_iff ht).mpr ⟨hc, rfl⟩, lateFrom_stray hc⟩
      | succ depth =>
        refine .inr ⟨depth, seen, ?_, ?_⟩
        · exact h.succ ht (by simp [weight_closing hc]) (by simp [he]) (by simp)
        · rw [lateFrom_closing hc, if_neg (by simp [hlate, hv]), List.nil_append]
    | false =>
      have hnext {seen' : Bool}
          (hseen : seen' = true ↔ seen = true ∨ t.kind = .equals ∧ depth = 0) :
          Scanned l (i + 1) depth seen' :=
        h.succ ht (by simp [weight_other ho hc]) hseen (by simp [hc])
      cases depth with
      | succ depth =>
        refine .inr ⟨depth + 1, seen, hnext (by simp), ?_⟩
        rw [lateFrom_inside ho hc, if_neg (by simp [hlate]), List.nil_append]
      | zero =>
        by_cases he : t.kind = .equals
        · refine .inr ⟨0, true, hnext (by simp [he]), ?_⟩
          rw [lateFrom_equals he, if_neg (by simp [hlate, he]), List.nil_append]
        · refine .inr ⟨0, seen, hnext (by simp [he]), ?_⟩
          have hreport : (seen && endsParameter (prevKind l i) t rest) = true ↔ Late l i := by
            rw [hlate, Bool.and_eq_true, eq_self_iff_true, true_and, endsParameter]
          simp only [lateFrom_other ho hc he, hreport]

/-- The run of the check from `i` on reports the late parameters there, up to a stray bracket. -/
theorem lateFrom_drop (h : Scanned l i depth seen) :
    lateFrom depth seen (prevKind l i) (l.drop i) =
      (((l.drop i).zipIdx i).filter fun p ↦ Late l p.2 ∧ ∀ j < p.2, ¬ StrayAt l j).map (·.1) := by
  generalize hl : l.drop i = rest
  -- on the tokens that are left; `Scanned` is what the state keeps of those before them
  induction rest generalizing i depth seen with
  | nil => rfl
  | cons t rest ih =>
    obtain ⟨ht, hrest⟩ := getElem?_of_drop_eq_cons hl
    obtain ⟨hstray, hrun⟩ | ⟨depth', seen', hnext, hrun⟩ := h.step hl
    · rw [hrun, eq_comm, List.map_eq_nil_iff, List.filter_eq_nil_iff]
      intro p hp
      simp only [decide_eq_true_eq, not_and]
      intro hlate hclear
      -- the index behind the bracket is not the bracket's own, since the bracket is not late
      have hne : i ≠ p.2 := fun heq ↦ hstray.not_late (heq ▸ hlate)
      have hle := List.le_snd_of_mem_zipIdx hp
      exact hclear i (by omega) hstray
    · have hprev : prevKind l (i + 1) = some t.kind := kindAt_of_getElem? ht
      rw [hrun, ← hprev, ih hnext hrest, List.zipIdx_cons, List.filter_cons]
      simp only [and_iff_left h.clear, decide_eq_true_eq]
      split <;> rfl

end Scan

section Report

variable {tokens l : List Token} {d : Declaration} {o k s : Nat}

theorem lateFrom_eq_reported (l : List Token) : lateFrom 0 false none l = reported l :=
  lateFrom_drop (scanned_zero l)

theorem interior_eq_between (hd : d ∈ locate tokens) (h : d.parameters tokens = some (o, k)) :
    interior d tokens = some (between tokens o k) := by
  obtain ⟨body, hdecl⟩ := mem_locate_iff.mp hd
  have hlist := parameters_of_isDeclaration hdecl
  rw [h] at hlist
  cases hlist with
  | list first closed before =>
    have hlt := closed.lt
    rw [interior, h, Option.map_some, significant, slice, between, List.drop_take,
      show k - 1 + 1 - (o + 1) = k - (o + 1) by omega]

theorem reported_of_clear (h : ∀ i < l.length, ¬ StrayAt l i) : reported l = lateIn l := by
  rw [reported, lateIn]
  congr 1
  apply List.filter_congr
  intro p hp
  have hlt := List.snd_lt_of_mem_zipIdx hp
  simp only [decide_eq_decide, and_iff_left_iff_imp]
  exact fun _ j hj ↦ h j (by omega)

theorem reported_of_isLeast (h : IsLeast {i | StrayAt l i} s) :
    reported l = (l.zipIdx.filter fun p ↦ p.2 < s ∧ Late l p.2).map (·.1) := by
  rw [reported]
  congr 1
  apply List.filter_congr
  intro p _
  simp only [decide_eq_decide]
  constructor
  · rintro ⟨hlate, hclear⟩
    have hne : p.2 ≠ s := fun heq ↦ h.1.not_late (heq ▸ hlate)
    have hle : ¬ s < p.2 := fun hlt ↦ hclear s hlt h.1
    exact ⟨by omega, hlate⟩
  · rintro ⟨hlt, hlate⟩
    refine ⟨hlate, fun j hj hstray ↦ ?_⟩
    have hle := h.2 hstray
    omega

theorem filter_late_eq_nil_iff :
    (l.zipIdx.filter fun p ↦ p.2 < s ∧ Late l p.2) = [] ↔ ∀ i < s, ¬ Late l i := by
  simp only [List.filter_eq_nil_iff, decide_eq_true_eq, not_and]
  constructor
  · intro h i hi hlate
    obtain ⟨t, ht, _⟩ := kindAt_eq_some_iff.mp hlate.isVariable
    exact h (t, i) (List.mem_zipIdx_iff_getElem?.mpr ht) hi hlate
  · exact fun h p _ hp ↦ h p.2 hp

def reportedIn (tokens : List Token) (d : Declaration) : List Token :=
  match d.parameters tokens with
  | some r => reported (between tokens r.1 r.2)
  | none => []

variable {r : Rule} (hr : r.check = .parameterOrder) (path : String)
include hr

theorem findingsIn_eq (hd : d ∈ locate tokens) :
    r.findingsIn path tokens d = (reportedIn tokens d).map fun t ↦ r.finding path (hit t) := by
  have hhits : hitsIn tokens d = (reportedIn tokens d).map hit := by
    rw [hitsIn, reportedIn]
    cases hlist : d.parameters tokens with
    | none => rw [interior, hlist]; rfl
    | some range => rw [interior_eq_between hd hlist]; simp only [lateFrom_eq_reported]
  rw [findingsIn, hr, Check.hitsIn, hhits, List.map_map]
  rfl

theorem findingsIn_of_parameters (hd : d ∈ locate tokens)
    (hlist : d.parameters tokens = some (o, k)) :
    r.findingsIn path tokens d =
      (reported (between tokens o k)).map fun t ↦ r.finding path (hit t) := by
  rw [findingsIn_eq hr path hd, reportedIn, hlist]

theorem findings_eq_reportedIn (tokens : List Token) :
    r.findings ⟨path, tokens⟩ = (locate tokens).flatMap fun d ↦
      (reportedIn tokens d).map fun t ↦ r.finding path (hit t) := by
  rw [findings_eq_flatMap (by simp [hr])]
  apply List.flatMap_congr
  intro d hd
  exact findingsIn_eq hr path hd

end Report

/-- In a parameter list without stray brackets exactly the late parameters are reported, in its
order. A declaration without a list has no findings. -/
theorem findings_late {r : Rule} (hr : r.check = .parameterOrder) (path : String)
    (tokens : List Token) :
    r.findings ⟨path, tokens⟩ = (locate tokens).flatMap (r.findingsIn path tokens) ∧
    ∀ d ∈ locate tokens,
      (d.parameters tokens = none → r.findingsIn path tokens d = []) ∧
      ∀ o k, d.parameters tokens = some (o, k) →
        (∀ i < (between tokens o k).length, ¬ StrayAt (between tokens o k) i) →
        r.findingsIn path tokens d =
          (lateIn (between tokens o k)).map fun t ↦ r.finding path (hit t) := by
  refine ⟨findings_eq_flatMap (by simp [hr]) path tokens, fun d hd ↦ ⟨fun hnone ↦ ?_, ?_⟩⟩
  · rw [findingsIn_eq hr path hd, reportedIn, hnone, List.map_nil]
  · intro o k hlist hclear
    rw [findingsIn_of_parameters hr path hd hlist, reported_of_clear hclear]

/-- A default in brackets of several kinds, a late parameter, and behind it a brace that is never
closed. The second declaration has no list. -/
theorem findings_late_unclosed :
    let tokens := inLine [.classWord, .whitespace, .name, .leftParen, .variable, .equals,
      .leftBracket, .variable, .comma, .leftBrace, .variable, .rightBracket, .rightBrace, .comma,
      .newline, .variable, .comma, .leftBrace, .variable, .rightParen, .leftBrace, .rightBrace,
      .classWord, .name, .leftBrace, .variable, .rightBrace]
    let d : Declaration := ⟨.classDecl, 0, 2, 21⟩
    let e : Declaration := ⟨.classDecl, 22, 23, 26⟩
    let r := Check.parameterOrder.toRule
    locate tokens = [d, e] ∧ d.parameters tokens = some (3, 19) ∧ e.parameters tokens = none ∧
      (∀ i < (between tokens 3 19).length, ¬ StrayAt (between tokens 3 19) i) ∧
      (r.findings ⟨"", tokens⟩).map (·.location.column) = [16] := by
  intro tokens d e r
  have hlocate : locate tokens = [d, e] := by decide
  have hlist : d.parameters tokens = some (3, 19) := by decide
  have hnone : e.parameters tokens = none := by decide
  have hclear : ∀ i < (between tokens 3 19).length, ¬ StrayAt (between tokens 3 19) i := by decide
  obtain ⟨hfindings, heach⟩ := findings_late (r := r) rfl "" tokens
  have hd := (heach d (by simp [hlocate])).2 3 19 hlist hclear
  have he := (heach e (by simp [hlocate])).1 hnone
  refine ⟨hlocate, hlist, hnone, hclear, ?_⟩
  rw [hfindings, hlocate, List.flatMap_cons, List.flatMap_singleton, hd, he]
  decide

/-- A stray bracket ends the search in a parameter list. The late parameters in front of the first
such bracket are reported all the same, so there is no finding exactly if there are none of them.
The other declarations are not touched by it: what is reported of each of them comes from what
stands between its own parentheses. -/
theorem findings_stray {r : Rule} (hr : r.check = .parameterOrder) (path : String)
    (tokens : List Token) {d : Declaration} (hd : d ∈ locate tokens) {o k : Nat}
    (hlist : d.parameters tokens = some (o, k)) (hstray : ∃ i, StrayAt (between tokens o k) i) :
    let l := between tokens o k
    (∃ s, IsLeast {i | StrayAt l i} s ∧
      r.findingsIn path tokens d = (l.zipIdx.filter fun p ↦ p.2 < s ∧ Late l p.2).map
        (fun p ↦ r.finding path (hit p.1)) ∧
      (r.findingsIn path tokens d = [] ↔ ∀ i < s, ¬ Late l i)) ∧
    ∀ before after, locate tokens = before ++ d :: after →
      r.findings ⟨path, tokens⟩ =
        (before.flatMap fun e ↦ (reportedIn tokens e).map fun t ↦ r.finding path (hit t)) ++
          r.findingsIn path tokens d ++
        after.flatMap fun e ↦ (reportedIn tokens e).map fun t ↦ r.finding path (hit t) := by
  intro l
  constructor
  · have hleast : IsLeast {i | StrayAt l i} (Nat.find hstray) :=
      ⟨Nat.find_spec hstray, fun _ ↦ Nat.find_min' hstray⟩
    have hfindings := findingsIn_of_parameters hr path hd hlist
    rw [reported_of_isLeast hleast, List.map_map] at hfindings
    refine ⟨Nat.find hstray, hleast, hfindings, ?_⟩
    rw [hfindings, List.map_eq_nil_iff, filter_late_eq_nil_iff]
  · intro before after hlocate
    rw [findings_eq_reportedIn hr, hlocate, List.flatMap_append, List.flatMap_cons,
      ← findingsIn_eq hr path hd, List.append_assoc]

/-- A late parameter stands in front of the bracket, and another one behind it. -/
theorem findings_stray_between :
    let tokens := inLine [.classWord, .name, .leftParen, .variable, .equals, .number, .comma,
      .variable, .comma, .rightBracket, .comma, .variable, .rightParen, .leftBrace, .rightBrace,
      .defineWord, .name, .leftParen, .variable, .equals, .number, .comma, .variable, .rightParen,
      .leftBrace, .rightBrace]
    let d : Declaration := ⟨.classDecl, 0, 1, 14⟩
    let e : Declaration := ⟨.definedType, 15, 16, 25⟩
    let r := Check.parameterOrder.toRule
    locate tokens = [d, e] ∧ d.parameters tokens = some (2, 12) ∧
      (∃ i, StrayAt (between tokens 2 12) i) ∧
      (r.findings ⟨"", tokens⟩).map (·.location.column) = [8, 23] := by
  intro tokens d e r
  have hlocate : locate tokens = [d, e] := by decide
  have hd : d ∈ locate tokens := by decide
  have hlist : d.parameters tokens = some (2, 12) := by decide
  have hstray : ∃ i, StrayAt (between tokens 2 12) i := ⟨6, by decide⟩
  have hfirst : ∀ i < 6, ¬ StrayAt (between tokens 2 12) i := by decide
  obtain ⟨⟨s, hs, hfindings, _⟩, hothers⟩ :=
    findings_stray (r := r) rfl "" tokens hd hlist hstray
  have hle : s ≤ 6 := hs.2 (by decide : StrayAt (between tokens 2 12) 6)
  have hge : ¬ s < 6 := fun hlt ↦ hfirst s hlt hs.1
  obtain rfl : s = 6 := by omega
  refine ⟨hlocate, hlist, hstray, ?_⟩
  rw [hothers [] [e] hlocate, hfindings]
  decide

/-- A late parameter and a stray bracket behind it: the parameter is reported. -/
theorem findings_before_stray :
    let tokens := inLine [.classWord, .name, .leftParen, .variable, .equals, .number, .comma,
      .variable, .comma, .rightBracket, .rightParen, .leftBrace, .rightBrace]
    let d : Declaration := ⟨.classDecl, 0, 1, 12⟩
    d ∈ locate tokens ∧ d.parameters tokens = some (2, 10) ∧ StrayAt (between tokens 2 10) 6 ∧
      (Check.parameterOrder.toRule.findingsIn "" tokens d).map (·.location.column) = [8] := by
  decide

end ManifestLint.Rule.ParameterOrder
