import ManifestLint.Proofs.Segments
import ManifestLint.Proofs.TokenMaps
import ManifestLint.Proofs.Views
import Mathlib.Data.List.Forall2
import Mathlib.Tactic.MkIffOfInductiveProp

namespace ManifestLint

open Token Stream Declaration

namespace Rule.VariableScope

/-- The next significant token after `i` is of this kind, and it stands at `last` or before. -/
def FollowedBy (tokens : List Token) (last i : Nat) (kind : Token.Kind) : Prop :=
  ∃ j ∈ nextSignificant tokens i, j ≤ last ∧ kindAt tokens j = some kind

instance (tokens : List Token) (last i : Nat) (kind : Token.Kind) :
    Decidable (FollowedBy tokens last i kind) :=
  inferInstanceAs (Decidable (∃ j ∈ nextSignificant tokens i, _ ∧ _))

/-- From `first` to `last` some variable of this name is followed by a token of one of the kinds. -/
def Occurs (tokens : List Token) (first last : Nat) (name : String) (kinds : List Token.Kind) :
    Prop :=
  ∃ p ∈ tokens.zipIdx, first ≤ p.2 ∧ p.2 ≤ last ∧ p.1.kind = .variable ∧
    p.1.variableName = name ∧ ∃ kind ∈ kinds, FollowedBy tokens last p.2 kind

instance (tokens : List Token) (first last : Nat) (name : String) (kinds : List Token.Kind) :
    Decidable (Occurs tokens first last name kinds) :=
  inferInstanceAs (Decidable (∃ p ∈ tokens.zipIdx, _ ∧ _))

def Exempt (name : String) : Prop :=
  [':', ':'] <:+: name.toList ∨ ∃ c ∈ name.toList, '0' ≤ c ∧ c ≤ '9'

theorem isExempt_iff {name : String} : isExempt name = true ↔ Exempt name := by
  have hdigit (c : Char) : c.isDigit = true ↔ '0' ≤ c ∧ c ≤ '9' := by
    simp [Char.isDigit, Char.le_def]
  simp only [isExempt, Bool.or_eq_true, Text.hasSeparator_iff, List.any_eq_true, hdigit, Exempt]

instance (name : String) : Decidable (Exempt name) := decidable_of_iff _ isExempt_iff

/-- The token `t` at index `i` is a variable that a declaration uses, and nothing makes its name
known there. -/
@[mk_iff]
structure Undeclared (extra : List String) (tokens : List Token) (d : Declaration) (t : Token)
    (i : Nat) : Prop where
  inside : d.start ≤ i ∧ i ≤ d.last
  isVariable : t.kind = .variable
  used : ¬ FollowedBy tokens d.last i .equals
  notExempt : ¬ Exempt t.variableName
  notBuiltin : t.variableName ∉ builtinVariables
  notExtra : t.variableName ∉ extra
  notParameter : ∀ r ∈ d.parameters tokens,
    ¬ Occurs tokens r.1 r.2 t.variableName [.comma, .equals, .rightParen]
  notAssigned : ¬ Occurs tokens d.start d.last t.variableName [.equals]

instance (extra : List String) (tokens : List Token) (d : Declaration) (t : Token) (i : Nat) :
    Decidable (Undeclared extra tokens d t i) :=
  decidable_of_iff' _ (undeclared_iff ..)

def undeclaredIn (extra : List String) (tokens : List Token) (d : Declaration) : List Token :=
  (tokens.zipIdx.filter fun p ↦ Undeclared extra tokens d p.1 p.2).map (·.1)

section Views

variable {tokens : List Token}

theorem followedBy_iff {last i : Nat} {kind : Token.Kind} :
    (significant tokens (i + 1) last).head?.map (·.kind) = some kind ↔
      FollowedBy tokens last i kind := by
  rw [head?_significant, FollowedBy]
  cases nextSignificant tokens i with
  | none => simp
  | some j =>
    rw [Option.bind_some]
    split <;> simp_all [kindAt]

theorem occurrences_significant (a b : Nat) :
    occurrences (significant tokens a b) =
      (tokens.zipIdx.filter fun p ↦ a ≤ p.2 ∧ p.2 ≤ b ∧ p.1.kind = .variable).map fun p ↦
        (p.1, (significant tokens (p.2 + 1) b).head?.map (·.kind)) := by
  have hwalk := walk_significant_eq_map occurrences
    (fun t next ↦ if t.kind = .variable then [(t, next.map (·.kind))] else []) tokens
    (p := fun q ↦ q.1.kind == .variable)
    (f := fun q ↦ (q.1, (significant tokens (q.2 + 1) b).head?.map (·.kind)))
    rfl (fun t rest ↦ by rw [occurrences]; split <;> rfl) (a := a) (b := b) ?_
  · simpa only [beq_iff_eq] using hwalk
  · intro q _ _ _
    by_cases hv : q.1.kind = .variable
    · have hs : q.1.isSignificant = true := by rw [isSignificant, isFormatting, hv]; rfl
      simp [hv, hs]
    · simp [hv]

theorem mem_names_iff {ends : Option Token.Kind → Bool} {kinds : List Token.Kind}
    (hends : ∀ o, ends o = true ↔ ∃ kind ∈ kinds, o = some kind) {a b : Nat} {name : String} :
    name ∈ ((occurrences (significant tokens a b)).filter fun v ↦ ends v.2).map
        (·.1.variableName) ↔ Occurs tokens a b name kinds := by
  rw [occurrences_significant]
  simp only [List.filter_map, List.map_map, List.mem_map, List.mem_filter, Function.comp_apply,
    decide_eq_true_eq, hends, followedBy_iff, Occurs]
  constructor
  · rintro ⟨p, ⟨⟨hp, ha, hb, hv⟩, hkind⟩, hname⟩
    exact ⟨p, hp, ha, hb, hv, hname, hkind⟩
  · rintro ⟨p, hp, ha, hb, hv, hname, hkind⟩
    exact ⟨p, ⟨⟨hp, ha, hb, hv⟩, hkind⟩, hname⟩

theorem mem_parameterNames_iff {a b : Nat} {name : String} :
    name ∈ parameterNames (significant tokens a b) ↔
      Occurs tokens a b name [.comma, .equals, .rightParen] := by
  apply mem_names_iff
  intro o
  unfold endsParameterName
  split <;> simp_all

theorem mem_assignedNames_iff {a b : Nat} {name : String} :
    name ∈ assignedNames (significant tokens a b) ↔ Occurs tokens a b name [.equals] := by
  have hends (o : Option Token.Kind) :
      (o == some .equals) = true ↔ ∃ kind ∈ [Token.Kind.equals], o = some kind := by simp
  exact mem_names_iff hends

theorem mem_scope_iff {extra : List String} {d : Declaration} {name : String} :
    name ∈ scope extra tokens d ↔
      name ∈ builtinVariables ∨ name ∈ extra ∨
        (∃ r ∈ d.parameters tokens, Occurs tokens r.1 r.2 name [.comma, .equals, .rightParen]) ∨
        Occurs tokens d.start d.last name [.equals] := by
  have hassigned : name ∈ assignedNames (d.tokens tokens 0) ↔
      Occurs tokens d.start d.last name [.equals] := mem_assignedNames_iff
  unfold scope
  cases d.parameters tokens with
  | none => simp [hassigned]
  | some r => simp [hassigned, mem_parameterNames_iff]

theorem hitsIn_eq (extra : List String) (tokens : List Token) (d : Declaration) :
    hitsIn extra tokens d = (undeclaredIn extra tokens d).map hit := by
  have hview : d.tokens tokens 0 = significant tokens d.start d.last := rfl
  simp only [hitsIn, undeclaredIn, references, hview, occurrences_significant, List.filter_map,
    List.filter_filter, List.map_map]
  congr 1
  apply List.filter_congr
  intro p _
  have hused : ((significant tokens (p.2 + 1) d.last).head?.map (·.kind) != some .equals) = true ↔
      ¬ FollowedBy tokens d.last p.2 .equals := by
    rw [bne_iff_ne, Ne, followedBy_iff]
  rw [Bool.eq_iff_iff]
  simp only [Function.comp_apply, Bool.and_eq_true, decide_eq_true_eq, Bool.not_eq_true',
    ← Bool.not_eq_true, isExempt_iff, List.contains_eq_mem, mem_scope_iff, hused, undeclared_iff,
    not_or, not_exists, not_and]
  -- the same conditions in another order
  tauto

/-- What a declaration does not declare it does not declare alone either: nothing around it
counts. -/
theorem undeclaredIn_slice (extra : List String) {d : Declaration} (hd : d ∈ locate tokens) :
    undeclaredIn extra tokens d =
      undeclaredIn extra (slice tokens d.start d.last) (d.reindex (· - d.start)) := by
  have hhits : hitsIn extra tokens d =
      hitsIn extra (slice tokens d.start d.last) (d.reindex (· - d.start)) :=
    hitsIn_slice hd (.variableScope extra) ""
  rw [hitsIn_eq, hitsIn_eq] at hhits
  have htokens := congrArg (List.map Hit.token) hhits
  simpa only [List.map_map, Function.comp_def, hit, List.map_id'] using htokens

end Views

section Sigils

/-- The same token, or the same variable with a sigil in place of none or with none in place of
one. -/
inductive Respelled : Token → Token → Prop
  | same (t : Token) : Respelled t t
  | added {name : String} (line column : UInt64) (h : name.toList.head? ≠ some '$') :
    Respelled ⟨.variable, name, line, column⟩ ⟨.variable, "$" ++ name, line, column⟩
  | dropped {name : String} (line column : UInt64) (h : name.toList.head? ≠ some '$') :
    Respelled ⟨.variable, "$" ++ name, line, column⟩ ⟨.variable, name, line, column⟩

def sigiled (t : Token) : Token := { t with text := "$" ++ t.variableName }

theorem variableName_sigiled (t : Token) : (sigiled t).variableName = t.variableName := by
  simp [sigiled, variableName]

theorem variableName_of_head? {t : Token} (h : t.text.toList.head? ≠ some '$') :
    t.variableName = t.text := by
  unfold variableName
  split
  next name hname => simp [hname] at h
  next => rfl

theorem sigiled_eq_of_respelled {t u : Token} (h : Respelled t u) : sigiled t = sigiled u := by
  have hadded {name : String} (line column : UInt64) (hname : name.toList.head? ≠ some '$') :
      sigiled ⟨.variable, "$" ++ name, line, column⟩ = sigiled ⟨.variable, name, line, column⟩ := by
    have hbare : variableName ⟨.variable, name, line, column⟩ = name := variableName_of_head? hname
    have hsigil : variableName ⟨.variable, "$" ++ name, line, column⟩ = name := by
      simp [variableName]
    rw [sigiled, sigiled, hbare, hsigil]
  cases h with
  | same => rfl
  | added line column hname => exact (hadded line column hname).symm
  | dropped line column hname => exact hadded line column hname

theorem map_sigiled_eq_of_forall₂ {tokens tokens' : List Token}
    (h : List.Forall₂ Respelled tokens tokens') : tokens.map sigiled = tokens'.map sigiled := by
  induction h with
  | nil => rfl
  | cons hhead _ ih => rw [List.map_cons, List.map_cons, sigiled_eq_of_respelled hhead, ih]

theorem findings_sigiled (extra : List String) (severity : Severity) (path : String)
    (tokens : List Token) :
    Rule.findings ⟨.variableScope extra, severity⟩ ⟨path, tokens.map sigiled⟩ =
      Rule.findings ⟨.variableScope extra, severity⟩ ⟨path, tokens⟩ := by
  have hkind (t : Token) : (sigiled t).kind = t.kind := rfl
  have hhits : hits extra (tokens.map sigiled) =
      (hits extra tokens).map fun hit ↦ { hit with token := sigiled hit.token } := by
    rw [hits, hits, locate_map hkind, List.map_flatMap]
    apply List.flatMap_congr
    intro d hd
    obtain ⟨body, h⟩ := mem_locate_iff.mp hd
    exact hitsIn_map hkind variableName_sigiled extra h
  rw [Rule.findings, Rule.findings, Check.hits, Check.hits, hhits, List.map_map]
  -- a finding has only the position of its token
  rfl

end Sigils

/-- The rule reports the undeclared variables, declaration by declaration and in each of them in
the order of the stream. Nothing outside of a declaration makes a name known in it, and it does not
matter which variables are written with a sigil. -/
theorem findings_undeclared (extra : List String) (severity : Severity) (path : String)
    (tokens : List Token) :
    let r : Rule := ⟨.variableScope extra, severity⟩
    (r.findings ⟨path, tokens⟩ = (locate tokens).flatMap fun d ↦
      (undeclaredIn extra tokens d).map fun t ↦ r.finding path (hit t)) ∧
    (∀ d ∈ locate tokens, undeclaredIn extra tokens d =
      undeclaredIn extra (slice tokens d.start d.last) (d.reindex (· - d.start))) ∧
    ∀ tokens', List.Forall₂ Respelled tokens tokens' →
      r.findings ⟨path, tokens'⟩ = r.findings ⟨path, tokens⟩ := by
  refine ⟨?_, fun d hd ↦ undeclaredIn_slice extra hd, ?_⟩
  · simp only [Rule.findings, Check.hits, hits, List.map_flatMap, hitsIn_eq, List.map_map,
      Function.comp_def]
  · intro tokens' h
    rw [← findings_sigiled, ← map_sigiled_eq_of_forall₂ h, findings_sigiled]

/-- A parameter of the first class is unknown in the second one, and a variable is known in front of
its assignment. -/
theorem findings_undeclared_sigils :
    let v (text : String) (column : UInt64) : Token := ⟨.variable, text, 1, column⟩
    let k (kind : Token.Kind) : Token := ⟨kind, "", 1, 0⟩
    let tokens := [k .classWord, k .name, k .leftParen, v "$port" 1, k .rightParen, k .leftBrace,
      v "$late" 2, v "os" 3, v "late" 4, k .equals, v "$port" 5, k .rightBrace,
      k .classWord, k .name, k .leftBrace, v "port" 6, k .rightBrace]
    let tokens' := [k .classWord, k .name, k .leftParen, v "port" 1, k .rightParen, k .leftBrace,
      v "$late" 2, v "$os" 3, v "$late" 4, k .equals, v "port" 5, k .rightBrace,
      k .classWord, k .name, k .leftBrace, v "port" 6, k .rightBrace]
    let r := (Check.variableScope []).toRule
    let d : Declaration := ⟨.classDecl, 12, 13, 16⟩
    d ∈ locate tokens ∧
      undeclaredIn [] (slice tokens 12 16) (d.reindex (· - 12)) = [v "port" 6] ∧
      List.Forall₂ Respelled tokens tokens' ∧
      (r.findings ⟨"", tokens'⟩).map (·.location.column) = [3, 6] := by
  intro v k tokens tokens' r d
  have hd : d ∈ locate tokens := by decide
  have hundeclared : undeclaredIn [] tokens d = [v "port" 6] := by decide
  have hbare (name : String) (column : UInt64) (h : name.toList.head? ≠ some '$') :
      Respelled (v ("$" ++ name) column) (v name column) := .dropped 1 column h
  have hsigil (name : String) (column : UInt64) (h : name.toList.head? ≠ some '$') :
      Respelled (v name column) (v ("$" ++ name) column) := .added 1 column h
  have hrespelled : List.Forall₂ Respelled tokens tokens' :=
    .cons (.same _) <| .cons (.same _) <| .cons (.same _) <| .cons (hbare "port" 1 (by decide)) <|
    .cons (.same _) <| .cons (.same _) <| .cons (.same _) <| .cons (hsigil "os" 3 (by decide)) <|
    .cons (hsigil "late" 4 (by decide)) <| .cons (.same _) <|
    .cons (hbare "port" 5 (by decide)) <| List.forall₂_same.mpr fun _ _ ↦ .same _
  obtain ⟨-, halone, hspelling⟩ := findings_undeclared [] .warning "" tokens
  refine ⟨hd, (halone d hd).symm.trans hundeclared, hrespelled, ?_⟩
  have hfindings : r.findings ⟨"", tokens'⟩ = r.findings ⟨"", tokens⟩ :=
    hspelling tokens' hrespelled
  rw [hfindings]
  decide

end Rule.VariableScope

end ManifestLint
