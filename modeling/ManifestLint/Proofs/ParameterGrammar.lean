import ManifestLint.Proofs.LateParameters
import Mathlib.Data.List.TakeWhile

namespace ManifestLint.Rule.ParameterOrder

open Token Stream Declaration

/-- A stretch of tokens behind `depth` open brackets that closes them and whatever it opens. Where
no bracket is open it has no token of the given kinds. -/
@[mk_iff]
structure Bracketed (kinds : List Token.Kind) (depth : Nat) (l : List Token) : Prop where
  nonneg : ∀ i ≤ l.length, 0 ≤ depth + nesting l i
  even : depth + nesting l l.length = 0
  free : ∀ i < l.length, depth + nesting l i = 0 → ∀ kind ∈ kindAt l i, kind ∉ kinds

instance (kinds : List Token.Kind) (depth : Nat) (l : List Token) :
    Decidable (Bracketed kinds depth l) := decidable_of_iff' _ (bracketed_iff ..)

structure Default where
  equals : Token
  value : List Token
  equals_kind : equals.kind = .equals
  value_ne_nil : value ≠ []
  bracketed : Bracketed [.comma, .equals] 0 value

structure Parameter where
  types : List Token
  var : Token
  default? : Option Default
  bracketed : Bracketed [.comma, .equals, .variable] 0 types
  var_kind : var.kind = .variable

def Default.tokens (d : Default) : List Token := d.equals :: d.value

def Parameter.tokens (p : Parameter) : List Token :=
  p.types ++ p.var :: (p.default?.elim [] Default.tokens)

def Parameter.isRequired (p : Parameter) : Bool := p.default?.isNone

/-- The tokens of a parameter list: a comma stands between two parameters, and perhaps one behind
the last. -/
inductive Written : List Parameter → List Token → Prop
  | nil : Written [] []
  | last (p : Parameter) : Written [p] p.tokens
  | cons (p : Parameter) {comma : Token} {ps : List Parameter} {l : List Token}
      (hcomma : comma.kind = .comma) (rest : Written ps l) :
      Written (p :: ps) (p.tokens ++ comma :: l)

def requiredLate (ps : List Parameter) : List Parameter :=
  (ps.dropWhile Parameter.isRequired).filter Parameter.isRequired

def lastVariable (l : List Token) : Option Token := l.getLast?.filter (·.kind == .variable)

def Default.trailing (d : Default) : Option Token := lastVariable d.value.tail

/-- What the check takes for a required parameter. -/
def Parameter.taken (p : Parameter) : List Token :=
  match p.default? with
  | some d => d.trailing.toList
  | none => [p.var]

section Stretches

variable {kinds : List Token.Kind} {depth : Nat} {t : Token} {l rest : List Token} {seen : Bool}
  {previous : Option Token.Kind}

theorem Bracketed.eq_zero_of_nil (h : Bracketed kinds depth []) : depth = 0 := by
  have heven := h.even
  rw [List.length_nil, nesting_zero] at heven
  omega

theorem Bracketed.tail {n : Nat} (h : Bracketed kinds depth (t :: l))
    (hn : (depth : Int) + weight t = n) : Bracketed kinds n l where
  nonneg i hi := by
    have hnonneg := h.nonneg (i + 1) (Nat.succ_le_succ hi)
    rw [nesting_cons] at hnonneg
    omega
  even := by
    have heven := h.even
    rw [List.length_cons, nesting_cons] at heven
    omega
  free i hi hzero := by
    apply h.free (i + 1) (Nat.succ_lt_succ hi)
    rw [nesting_cons]
    omega

theorem Bracketed.head_notMem (h : Bracketed kinds 0 (t :: l)) : t.kind ∉ kinds :=
  h.free 0 (Nat.succ_pos _) rfl t.kind rfl

theorem Bracketed.cons_cases (h : Bracketed kinds depth (t :: l)) :
    (isOpening t.kind = true ∧ Bracketed kinds (depth + 1) l) ∨
    (∃ n, depth = n + 1 ∧ isClosing t.kind = true ∧ Bracketed kinds n l) ∨
    (isOpening t.kind = false ∧ isClosing t.kind = false ∧ Bracketed kinds depth l) := by
  cases ho : isOpening t.kind with
  | true => exact .inl ⟨rfl, h.tail (by rw [weight_opening ho]; rfl)⟩
  | false =>
    cases hc : isClosing t.kind with
    | true =>
      have hnonneg := h.nonneg 1 (by simp)
      rw [nesting_cons, weight_closing hc, nesting_zero] at hnonneg
      obtain ⟨n, rfl⟩ : ∃ n, depth = n + 1 := ⟨depth - 1, by omega⟩
      exact .inr (.inl ⟨n, rfl, rfl, h.tail (by rw [weight_closing hc]; omega)⟩)
    | false => exact .inr (.inr ⟨rfl, rfl, h.tail (by rw [weight_other ho hc, add_zero])⟩)

theorem Bracketed.lastVariable_eq_none (h : Bracketed kinds depth l) (hv : .variable ∈ kinds) :
    lastVariable l = none := by
  rcases List.eq_nil_or_concat l with rfl | ⟨front, t, rfl⟩
  · rfl
  rw [lastVariable, List.concat_eq_append, List.getLast?_append_of_ne_nil _ (List.cons_ne_nil _ _),
    List.getLast?_singleton, Option.filter_eq_none_iff]
  intro u hu hvar
  obtain rfl := Option.some.inj hu
  have ht : (front.concat t)[front.length]? = some t := by simp
  have hweight : weight t = 0 := by
    rw [beq_iff_eq] at hvar
    exact weight_other (by simp [hvar, isOpening]) (by simp [hvar, isClosing])
  have heven := h.even
  rw [List.length_concat, nesting_succ ht, hweight, add_zero] at heven
  have hfree := h.free front.length (by simp) heven t.kind (kindAt_of_getElem? ht)
  exact hfree (beq_iff_eq.mp hvar ▸ hv)

theorem lastVariable_cons (h : t.kind = .variable → l ≠ []) :
    lastVariable (t :: l) = lastVariable l := by
  cases l with
  | nil => simp [lastVariable, show t.kind ≠ .variable from fun hk ↦ h hk rfl]
  | cons u l => rw [lastVariable, List.getLast?_cons_cons, lastVariable]

/-- The run of the check over a stretch, or over what is left of it, reports its last token if that
is a variable, and a comma or the end of the list follows. -/
theorem lateFrom_bracketed (seen : Bool) (rest : List Token) (h : Bracketed kinds depth l)
    (hcomma : .comma ∈ kinds) (hequals : .equals ∈ kinds)
    (hprevious : depth = 0 → previous ≠ some .equals) :
    ∃ previous', previous' ≠ some .equals ∧
      lateFrom depth seen previous (l ++ rest) =
        (if seen && rest.head?.all (·.kind == .comma) then (lastVariable l).toList else []) ++
          lateFrom 0 seen previous' rest := by
  induction l generalizing depth previous with
  | nil =>
    obtain rfl := h.eq_zero_of_nil
    exact ⟨previous, hprevious rfl, by simp [lastVariable]⟩
  | cons t l ih =>
    rw [List.cons_append]
    rcases h.cons_cases with ⟨ho, htail⟩ | ⟨n, rfl, hc, htail⟩ | ⟨ho, hc, htail⟩
    · rw [lateFrom_opening ho, lastVariable_cons fun hv ↦ absurd hv (of_isOpening ho).2.2]
      exact ih htail (by simp)
    · rw [lateFrom_closing hc, lastVariable_cons fun hv ↦ absurd hv (of_isClosing hc).2.2]
      exact ih htail fun _ ↦ by simp [(of_isClosing hc).2.1]
    · cases depth with
      | succ depth =>
        have hne : l ≠ [] := by
          rintro rfl
          exact absurd htail.eq_zero_of_nil depth.succ_ne_zero
        rw [lateFrom_inside ho hc, lastVariable_cons fun _ ↦ hne]
        exact ih htail (by simp)
      | zero =>
        have hne : t.kind ≠ .equals := fun hk ↦ h.head_notMem (hk ▸ hequals)
        rw [lateFrom_other ho hc hne]
        cases l with
        | nil =>
          refine ⟨some t.kind, by simpa using hne, ?_⟩
          rw [List.nil_append]
          congr 1
          by_cases hv : t.kind = .variable <;>
            simp [endsParameter, lastVariable, Option.filter_some, hv, hprevious rfl]
        | cons u l =>
          -- what follows inside of the stretch is no comma
          have hu : u.kind ≠ .comma := fun hk ↦ htail.head_notMem (hk ▸ hcomma)
          rw [if_neg (by simp [endsParameter, hu]), List.nil_append,
            lastVariable_cons fun _ ↦ List.cons_ne_nil u l]
          exact ih htail fun _ ↦ by simp [hne]

theorem lateFrom_types (seen : Bool) (rest : List Token)
    (h : Bracketed [.comma, .equals, .variable] 0 l) (hprevious : previous ≠ some .equals) :
    ∃ previous', previous' ≠ some .equals ∧
      lateFrom 0 seen previous (l ++ rest) = lateFrom 0 seen previous' rest := by
  obtain ⟨previous', hne, hrun⟩ :=
    lateFrom_bracketed seen rest h (by simp) (by simp) fun _ ↦ hprevious
  rw [h.lastVariable_eq_none (by simp), Option.toList_none, ite_self, List.nil_append] at hrun
  exact ⟨previous', hne, hrun⟩

theorem all_comma_of_head? (hrest : ∀ u ∈ rest.head?, u.kind = .comma) :
    rest.head?.all (·.kind == .comma) = true := by
  rw [Option.all_eq_true]
  exact fun u hu ↦ beq_iff_eq.mpr (hrest u hu)

theorem lateFrom_value (h : Bracketed [.comma, .equals] depth l)
    (hrest : ∀ u ∈ rest.head?, u.kind = .comma) (hprevious : depth = 0 → previous ≠ some .equals) :
    ∃ previous', lateFrom depth true previous (l ++ rest) =
      (lastVariable l).toList ++ lateFrom 0 true previous' rest := by
  obtain ⟨previous', -, hrun⟩ :=
    lateFrom_bracketed true rest h (by simp) (by simp) hprevious
  rw [all_comma_of_head? hrest, Bool.and_self, if_pos rfl] at hrun
  exact ⟨previous', hrun⟩

theorem lateFrom_default (d : Default) (hrest : ∀ u ∈ rest.head?, u.kind = .comma) :
    ∃ previous', lateFrom 0 seen previous (d.tokens ++ rest) =
      d.trailing.toList ++ lateFrom 0 true previous' rest := by
  rw [Default.tokens, List.cons_append, lateFrom_equals d.equals_kind, d.equals_kind,
    Default.trailing]
  obtain ⟨t, l, hvalue⟩ := List.exists_cons_of_ne_nil d.value_ne_nil
  have hbracketed := d.bracketed
  rw [hvalue] at hbracketed ⊢
  rw [List.cons_append, List.tail_cons]
  have hne : t.kind ≠ .equals := fun hk ↦ hbracketed.head_notMem (by simp [hk])
  rcases hbracketed.cons_cases with ⟨ho, htail⟩ | ⟨n, hn, _⟩ | ⟨ho, hc, htail⟩
  · rw [lateFrom_opening ho]
    exact lateFrom_value htail hrest (by simp)
  · omega
  · -- a variable behind the equals sign is the default itself
    rw [lateFrom_other ho hc hne, if_neg (by simp [endsParameter]), List.nil_append]
    exact lateFrom_value htail hrest fun _ ↦ by simp [hne]

theorem lateFrom_parameter (seen : Bool) (p : Parameter) (hprevious : previous ≠ some .equals)
    (hrest : ∀ u ∈ rest.head?, u.kind = .comma) :
    ∃ previous', lateFrom 0 seen previous (p.tokens ++ rest) =
      (if seen || !p.isRequired then p.taken else []) ++
        lateFrom 0 (seen || !p.isRequired) previous' rest := by
  obtain ⟨types, var, default?, bracketed, hvar⟩ := p
  simp only [Parameter.tokens, Parameter.isRequired, Parameter.taken, List.append_assoc,
    List.cons_append]
  obtain ⟨previous₁, hprevious₁, hrun⟩ := lateFrom_types seen
    (var :: (default?.elim [] Default.tokens ++ rest)) bracketed hprevious
  rw [hrun, lateFrom_other (by simp [hvar, isOpening]) (by simp [hvar, isClosing]) (by simp [hvar])]
  cases default? with
  | none =>
    refine ⟨some var.kind, ?_⟩
    simp [endsParameter, all_comma_of_head? hrest, hprevious₁, hvar]
  | some d =>
    rw [Option.elim_some, if_neg (by simp [Default.tokens, endsParameter, d.equals_kind]),
      List.nil_append]
    simpa using lateFrom_default d hrest

end Stretches

section Lists

variable {ps : List Parameter} {l : List Token}

theorem lateFrom_comma {comma : Token} {seen : Bool} {previous : Option Token.Kind}
    (h : comma.kind = .comma) :
    lateFrom 0 seen previous (comma :: l) = lateFrom 0 seen (some .comma) l := by
  rw [lateFrom_other (by simp [h, isOpening]) (by simp [h, isClosing]) (by simp [h]),
    if_neg (by simp [endsParameter, h]), List.nil_append, h]

/-- The parameters that count once a default has been seen, or from the first one with a default
on. -/
def counting (seen : Bool) (ps : List Parameter) : List Parameter :=
  if seen then ps else ps.dropWhile Parameter.isRequired

theorem flatMap_taken_counting_cons (seen : Bool) (p : Parameter) (ps : List Parameter) :
    (counting seen (p :: ps)).flatMap Parameter.taken =
      (if seen || !p.isRequired then p.taken else []) ++
        (counting (seen || !p.isRequired) ps).flatMap Parameter.taken := by
  cases seen <;> cases hp : p.isRequired <;> simp [counting, hp]

theorem lateFrom_written (h : Written ps l) {seen : Bool} {previous : Option Token.Kind}
    (hprevious : previous ≠ some .equals) :
    lateFrom 0 seen previous l = (counting seen ps).flatMap Parameter.taken := by
  induction h generalizing seen previous with
  | nil => cases seen <;> rfl
  | last p =>
    have hrest : ∀ u ∈ ([] : List Token).head?, u.kind = .comma := by simp
    obtain ⟨previous', hrun⟩ := lateFrom_parameter seen p hprevious hrest
    rw [List.append_nil] at hrun
    rw [hrun, flatMap_taken_counting_cons]
    cases seen || !p.isRequired <;> rfl
  | @cons p comma ps l hcomma _ ih =>
    have hrest : ∀ u ∈ (comma :: l).head?, u.kind = .comma := by simpa using hcomma
    obtain ⟨previous', hrun⟩ := lateFrom_parameter seen p hprevious hrest
    rw [hrun, lateFrom_comma hcomma, ih (by simp), flatMap_taken_counting_cons]

theorem Parameter.of_default?_eq_none {p : Parameter} (h : p.default? = none) :
    p.isRequired = true ∧ p.taken = [p.var] := by
  simp [isRequired, taken, h]

theorem Parameter.of_default?_eq_some {p : Parameter} {d : Default} (h : p.default? = some d) :
    p.isRequired = false ∧ p.taken = d.trailing.toList := by
  simp [isRequired, taken, h]

theorem length_filter_isRequired_le (ps : List Parameter) :
    (ps.filter Parameter.isRequired).length ≤ (ps.flatMap Parameter.taken).length := by
  induction ps with
  | nil => exact le_rfl
  | cons p ps ih =>
    rw [List.flatMap_cons, List.length_append]
    cases hp : p.default? with
    | none =>
      obtain ⟨hrequired, htaken⟩ := Parameter.of_default?_eq_none hp
      rw [List.filter_cons_of_pos hrequired, htaken, List.length_cons, List.length_singleton]
      omega
    | some d =>
      obtain ⟨hrequired, -⟩ := Parameter.of_default?_eq_some hp
      rw [List.filter_cons_of_neg (by simp [hrequired])]
      omega

theorem map_taken_eq_iff {α : Type} (f : Token → α) (ps : List Parameter) :
    (ps.flatMap Parameter.taken).map f = (ps.filter Parameter.isRequired).map (fun p ↦ f p.var) ↔
      ∀ p ∈ ps, ∀ d ∈ p.default?, d.trailing = none := by
  induction ps with
  | nil => simp
  | cons p ps ih =>
    rw [List.flatMap_cons, List.map_append, List.forall_mem_cons, ← ih]
    cases hp : p.default? with
    | none =>
      obtain ⟨hrequired, htaken⟩ := Parameter.of_default?_eq_none hp
      simp [hrequired, htaken]
    | some d =>
      obtain ⟨hrequired, htaken⟩ := Parameter.of_default?_eq_some hp
      rw [List.filter_cons_of_neg (by simp [hrequired]), htaken]
      cases htrailing : d.trailing with
      | none => simp [htrailing]
      | some t =>
        have hle := length_filter_isRequired_le ps
        have hne : [f t] ++ (ps.flatMap Parameter.taken).map f ≠
            (ps.filter Parameter.isRequired).map (fun p ↦ f p.var) := by
          intro heq
          have hlen := congrArg List.length heq
          simp only [List.length_append, List.length_singleton, List.length_map] at hlen
          omega
        simpa [htrailing] using hne

theorem mem_dropWhile_isRequired {p : Parameter} {d : Default} (hp : p ∈ ps)
    (hd : p.default? = some d) : p ∈ ps.dropWhile Parameter.isRequired := by
  rw [← List.takeWhile_append_dropWhile (p := Parameter.isRequired) (l := ps), List.mem_append] at hp
  rcases hp with hp | hp
  · have hrequired := List.mem_takeWhile_imp hp
    rw [(Parameter.of_default?_eq_some hd).1] at hrequired
    cases hrequired
  · exact hp

end Lists

/-- Of a list as it is meant to be written the check reports, from the first parameter with a
default on, the parameters without a default and the variables that end a default of more than one
token. So the required parameters behind a default are reported, and nothing else exactly if there
is no such variable. -/
theorem findings_written {r : Rule} (hr : r.check = .parameterOrder) (path : String)
    (tokens : List Token) {d : Declaration} (hd : d ∈ locate tokens) {o k : Nat}
    (hlist : d.parameters tokens = some (o, k)) {ps : List Parameter}
    (hps : Written ps (between tokens o k)) :
    let report (t : Token) := r.finding path (hit t)
    r.findings ⟨path, tokens⟩ = (locate tokens).flatMap (r.findingsIn path tokens) ∧
    r.findingsIn path tokens d =
      ((ps.dropWhile Parameter.isRequired).flatMap Parameter.taken).map report ∧
    (r.findingsIn path tokens d = (requiredLate ps).map (fun p ↦ report p.var) ↔
      ∀ p ∈ ps, ∀ v ∈ p.default?, v.trailing = none) := by
  intro report
  have hreported : reported (between tokens o k) =
      (ps.dropWhile Parameter.isRequired).flatMap Parameter.taken := by
    rw [← lateFrom_eq_reported, lateFrom_written hps (by simp), counting,
      if_neg Bool.false_ne_true]
  have hfindings := findingsIn_of_parameters hr path hd hlist
  rw [hreported] at hfindings
  refine ⟨findings_eq_flatMap (by simp [hr]) path tokens, hfindings, ?_⟩
  rw [hfindings, requiredLate, map_taken_eq_iff report]
  constructor
  · exact fun h p hp v hv ↦ h p (mem_dropWhile_isRequired hp hv) v hv
  · exact fun h p hp ↦ h p ((List.dropWhile_sublist _).subset hp)

/-- A variable in the brackets of a default is not reported, and the required parameter behind it
is. -/
theorem findings_written_typed :
    let tokens := inLine [.classWord, .name, .leftParen, .classRef, .variable, .equals, .name,
      .leftParen, .number, .comma, .variable, .rightParen, .comma, .classRef, .variable,
      .rightParen, .leftBrace, .rightBrace]
    let t (kind : Token.Kind) (column : UInt64) : Token := ⟨kind, "", 1, column⟩
    let value := [t .name 7, t .leftParen 8, t .number 9, t .comma 10, t .variable 11,
      t .rightParen 12]
    let p : Parameter := ⟨[t .classRef 4], t .variable 5,
      some ⟨t .equals 6, value, rfl, by simp [value], by decide⟩, by decide, rfl⟩
    let q : Parameter := ⟨[t .classRef 14], t .variable 15, none, by decide, rfl⟩
    let d : Declaration := ⟨.classDecl, 0, 1, 17⟩
    let r := Check.parameterOrder.toRule
    d ∈ locate tokens ∧ d.parameters tokens = some (2, 15) ∧
      Written [p, q] (between tokens 2 15) ∧
      (∀ x ∈ [p, q], ∀ v ∈ x.default?, v.trailing = none) ∧
      (r.findingsIn "" tokens d).map (·.location.column) = [15] := by
  intro tokens t value p q d r
  have hd : d ∈ locate tokens := by decide
  have hlist : d.parameters tokens = some (2, 15) := by decide
  have htokens : between tokens 2 15 = p.tokens ++ t .comma 13 :: q.tokens := by decide
  have hps : Written [p, q] (between tokens 2 15) := by
    rw [htokens]
    exact .cons p rfl (.last q)
  have htrailing : ∀ x ∈ [p, q], ∀ v ∈ x.default?, v.trailing = none := by decide
  obtain ⟨-, -, hlate⟩ := findings_written (r := r) rfl "" tokens hd hlist hps
  refine ⟨hd, hlist, hps, htrailing, ?_⟩
  rw [hlate.mpr htrailing]
  decide

/-- The only parameter has a default, and yet the variable at the end of the default is reported as a
required parameter behind it. -/
theorem findings_default_variable :
    let tokens := inLine [.classWord, .name, .leftParen, .variable, .equals, .number, .plus,
      .variable, .rightParen, .leftBrace, .rightBrace]
    let t (kind : Token.Kind) (column : UInt64) : Token := ⟨kind, "", 1, column⟩
    let value := [t .number 6, t .plus 7, t .variable 8]
    let p : Parameter := ⟨[], t .variable 4,
      some ⟨t .equals 5, value, rfl, by simp [value], by decide⟩, by decide, rfl⟩
    let d : Declaration := ⟨.classDecl, 0, 1, 10⟩
    d ∈ locate tokens ∧ d.parameters tokens = some (2, 8) ∧ Written [p] (between tokens 2 8) ∧
      (requiredLate [p]).map (·.var.column) = [] ∧
      (Check.parameterOrder.toRule.findingsIn "" tokens d).map (·.location.column) = [8] := by
  intro tokens t value p d
  exact ⟨by decide, by decide, .last p, by decide, by decide⟩

end ManifestLint.Rule.ParameterOrder
