import ManifestLint.Proofs.DeclarationHits

namespace ManifestLint

open Token Stream Declaration

section Stream

variable {f : Token → Token} (hf : ∀ t, (f t).kind = t.kind) (tokens : List Token)
include hf

theorem isSignificant_map (t : Token) : (f t).isSignificant = t.isSignificant := by
  rw [isSignificant, isFormatting, hf, isSignificant, isFormatting]

theorem kindAt_map (i : Nat) : kindAt (tokens.map f) i = kindAt tokens i := by
  simp only [kindAt, List.getElem?_map, Option.map_map, Function.comp_def, hf]

theorem significantAt_map (i : Nat) :
    SignificantAt (tokens.map f) i ↔ SignificantAt tokens i := by
  simp [SignificantAt, isSignificant_map hf]

omit hf in
theorem slice_map (i k : Nat) : slice (tokens.map f) i k = (slice tokens i k).map f := by
  rw [slice, slice, List.map_take, List.map_drop]

theorem significant_map (i k : Nat) :
    significant (tokens.map f) i k = (significant tokens i k).map f := by
  simp only [significant, slice_map, List.filter_map, Function.comp_def, isSignificant_map hf]

theorem balance_map (d : Delimiter) (l : List Token) : d.balance (l.map f) = d.balance l := by
  simp only [Delimiter.balance, List.countP_map, Function.comp_def, hf]

theorem matchingClose_map (d : Delimiter) (i : Nat) :
    d.matchingClose (tokens.map f) i = d.matchingClose tokens i := by
  have hclose (depth i : Nat) (l : List Token) :
      d.closeFrom depth i (l.map f) = d.closeFrom depth i l := by
    induction l generalizing depth i with
    | nil => rfl
    | cons t l ih => simp only [List.map_cons, Delimiter.closeFrom, hf, ih]
  rw [Delimiter.matchingClose, ← List.map_drop, hclose, kindAt_map hf, Delimiter.matchingClose]

theorem closes_map (d : Delimiter) (i c : Nat) :
    d.Closes (tokens.map f) i c ↔ d.Closes tokens i c := by
  rw [← Delimiter.matchingClose_eq_ok_iff, matchingClose_map hf,
    Delimiter.matchingClose_eq_ok_iff]

theorem opensBody_map (n b : Nat) :
    OpensBody (tokens.map f) n b ↔ OpensBody tokens n b := by
  constructor
  · rintro ⟨hlt, hbrace, heven, hinside⟩
    simp only [kindAt_map hf, slice_map, balance_map hf] at hbrace heven hinside
    exact ⟨hlt, hbrace, heven, hinside⟩
  · rintro ⟨hlt, hbrace, heven, hinside⟩
    constructor <;> simpa only [kindAt_map hf, slice_map, balance_map hf]

theorem isDeclaration_map (d : Declaration) (body : Nat) :
    IsDeclaration (tokens.map f) d body ↔ IsDeclaration tokens d body := by
  constructor
  · rintro ⟨hkeyword, hnext, hname, hbody, hclosed⟩
    simp only [kindAt_map hf, significantAt_map hf, opensBody_map hf, closes_map hf] at *
    exact ⟨hkeyword, hnext, hname, hbody, hclosed⟩
  · rintro ⟨hkeyword, hnext, hname, hbody, hclosed⟩
    constructor <;>
      simpa only [kindAt_map hf, significantAt_map hf, opensBody_map hf, closes_map hf]

theorem locate_map : locate (tokens.map f) = locate tokens := by
  apply eq_of_pairwise_of_mem_iff (locate_pairwise _) (locate_pairwise _)
  intro d
  simp only [mem_locate_iff, isDeclaration_map hf]

variable {tokens} {d : Declaration} {body : Nat}

theorem parameters_map (h : IsDeclaration tokens d body) :
    d.parameters (tokens.map f) = d.parameters tokens := by
  apply (parameters_of_isDeclaration ((isDeclaration_map hf tokens d body).mpr h)).unique
  have hparens : headParens (tokens.map f) d body = headParens tokens d body := by
    simp only [headParens, kindAt_map hf]
  have hp := parameters_of_isDeclaration h
  generalize d.parameters tokens = r at hp ⊢
  cases hp with
  | absent hempty => exact .absent (hparens.trans hempty)
  | list first closed before =>
    exact .list (hparens ▸ first) ((closes_map hf tokens _ _ _).mpr closed) before

theorem tokens_map (offset : Nat) :
    d.tokens (tokens.map f) offset = (d.tokens tokens offset).map f :=
  significant_map hf tokens _ _

end Stream

namespace Rule.VariableScope

variable {f : Token → Token} (hf : ∀ t, (f t).kind = t.kind)

include hf in
theorem occurrences_map (l : List Token) :
    occurrences (l.map f) = (occurrences l).map (Prod.map f id) := by
  induction l with
  | nil => rfl
  | cons t l ih =>
    have hnext : (l.map f).head?.map (·.kind) = l.head?.map (·.kind) := by
      cases l with
      | nil => rfl
      | cons next l => simp only [List.map_cons, List.head?_cons, Option.map_some, hf]
    simp only [List.map_cons, occurrences, hf, hnext, ih]
    split <;> rfl

variable (hname : ∀ t, (f t).variableName = t.variableName)
include hf hname

theorem parameterNames_map (l : List Token) : parameterNames (l.map f) = parameterNames l := by
  simp only [parameterNames, occurrences_map hf, List.filter_map, List.map_map,
    Function.comp_def, Prod.map_fst, Prod.map_snd, id_eq, hname]

theorem assignedNames_map (l : List Token) : assignedNames (l.map f) = assignedNames l := by
  simp only [assignedNames, occurrences_map hf, List.filter_map, List.map_map,
    Function.comp_def, Prod.map_fst, Prod.map_snd, id_eq, hname]

variable {tokens : List Token} {d : Declaration} {body : Nat}

/-- Where kinds and names of variables are kept, the same is reported at the tokens that the map
gives. -/
theorem hitsIn_map (extra : List String) (h : IsDeclaration tokens d body) :
    hitsIn extra (tokens.map f) d =
      (hitsIn extra tokens d).map fun hit ↦ { hit with token := f hit.token } := by
  have hscope : scope extra (tokens.map f) d = scope extra tokens d := by
    unfold scope
    rw [parameters_map hf h, tokens_map hf, assignedNames_map hf hname]
    cases d.parameters tokens with
    | none => rfl
    | some r => simp only [significant_map hf, parameterNames_map hf hname]
  simp only [hitsIn, hscope, tokens_map hf, references, occurrences_map hf, List.filter_map,
    List.map_map, Function.comp_def, Prod.map_fst, Prod.map_snd, id_eq, hname, hit]

end Rule.VariableScope

end ManifestLint
