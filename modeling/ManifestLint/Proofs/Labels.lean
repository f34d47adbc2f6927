import ManifestLint.Proofs.RuleTables
import ManifestLint.Proofs.TokenMaps

namespace ManifestLint

open Token Stream Declaration

def Token.relabel (g : UInt64 × UInt64 → UInt64 × UInt64) (t : Token) : Token :=
  { t with line := (g (t.line, t.column)).1, column := (g (t.line, t.column)).2 }

def Rule.Hit.relabel (g : UInt64 × UInt64 → UInt64 × UInt64) (h : Rule.Hit) : Rule.Hit :=
  { h with token := h.token.relabel g }

def Finding.relabel (g : UInt64 × UInt64 → UInt64 × UInt64) (f : Finding) : Finding :=
  { f with location := ⟨f.location.file, (g (f.location.line, f.location.column)).1,
      (g (f.location.line, f.location.column)).2⟩ }

def Finding.inFile (path : String) (f : Finding) : Finding :=
  { f with location := { f.location with file := path } }

@[simp]
theorem kind_relabel (g : UInt64 × UInt64 → UInt64 × UInt64) (t : Token) :
    (t.relabel g).kind = t.kind := rfl

@[simp]
theorem text_relabel (g : UInt64 × UInt64 → UInt64 × UInt64) (t : Token) :
    (t.relabel g).text = t.text := rfl

namespace Rule

variable (g : UInt64 × UInt64 → UInt64 × UInt64)

theorem NestedDeclarations.hitsAmong_relabel (l : List Token) :
    hitsAmong (l.map (relabel g)) = (hitsAmong l).map (Hit.relabel g) := by
  induction l with
  | nil => rfl
  | cons t l ih =>
    have hfirst : hit? (t.relabel g) (l.map (relabel g)) = (hit? t l).map (Hit.relabel g) := by
      cases l with
      | nil =>
        simp only [hit?, List.map_nil, kind_relabel, apply_ite (Option.map (Hit.relabel g))]
        rfl
      | cons next l =>
        simp only [hit?, List.map_cons, kind_relabel, apply_ite (Option.map (Hit.relabel g))]
        rfl
    rw [List.map_cons, hitsAmong, hitsAmong, hfirst, ih, List.map_append, Option.toList_map]

theorem ParameterOrder.lateFrom_relabel (depth : Nat) (seen : Bool) (previous : Option Token.Kind)
    (l : List Token) :
    lateFrom depth seen previous (l.map (relabel g)) =
      (lateFrom depth seen previous l).map (relabel g) := by
  induction l generalizing depth seen previous with
  | nil => rfl
  | cons t l ih =>
    have hends : endsParameter previous (t.relabel g) (l.map (relabel g)) =
        endsParameter previous t l := by
      cases l <;> rfl
    cases depth with
    | zero =>
      simp only [List.map_cons, lateFrom, kind_relabel, hends, ih,
        apply_ite (List.map (relabel g)), List.map_nil]
    | succ depth =>
      simp only [List.map_cons, lateFrom, kind_relabel, hends, ih,
        apply_ite (List.map (relabel g))]

theorem InheritsAcrossNamespaces.parent?_relabel (view : List Token) :
    parent? (view.map (relabel g)) = (parent? view).map (relabel g) := by
  have hindex : inheritsIndex (view.map (relabel g)) = inheritsIndex view := by
    simp only [inheritsIndex, kindAt_map (kind_relabel g), matchingClose_map (kind_relabel g)]
  simp only [parent?, hindex, kindAt_map (kind_relabel g), List.getElem?_map]
  cases inheritsIndex view with
  | none => rfl
  | some i => simp only [bind, Option.bind_some]; split <;> rfl

variable {tokens : List Token} {d : Declaration} {body : Nat}

theorem ParameterOrder.hitsIn_relabel (h : IsDeclaration tokens d body) :
    hitsIn (tokens.map (relabel g)) d = (hitsIn tokens d).map (Hit.relabel g) := by
  unfold hitsIn interior
  rw [parameters_map (kind_relabel g) h]
  cases d.parameters tokens with
  | none => rfl
  | some r =>
    simp only [Option.map_some, significant_map (kind_relabel g), lateFrom_relabel, List.map_map]
    rfl

theorem InheritsAcrossNamespaces.hitIn_relabel :
    hitIn (tokens.map (relabel g)) d = (hitIn tokens d).map (Hit.relabel g) := by
  simp only [hitIn, tokens_map (kind_relabel g), parent?_relabel, List.getElem?_map]
  cases parent? (d.tokens tokens 0) with
  | none => rfl
  | some parent =>
    cases tokens[d.name]? with
    | none => rfl
    | some child =>
      simp only [Option.map_some, bind, Option.bind_some, text_relabel,
        apply_ite (Option.map (Hit.relabel g))]
      rfl

theorem AutoloaderLayout.hit?_relabel (extension path : String) (t : Token) :
    hit? extension path (t.relabel g) = (hit? extension path t).map (Hit.relabel g) := by
  simp only [hit?, text_relabel, apply_ite (Option.map (Hit.relabel g))]
  rfl

theorem Check.hitsIn_relabel (check : Check) (path : String) (h : IsDeclaration tokens d body) :
    check.hitsIn path (tokens.map (relabel g)) d =
      (check.hitsIn path tokens d).map (Hit.relabel g) := by
  cases check with
  | rightToLeft => rfl
  | autoloaderLayout extension =>
    simp only [hitsIn, List.getElem?_map]
    split
    · rfl
    · cases tokens[d.name]? with
      | none => rfl
      | some t =>
        simp only [Option.map_some, Option.bind_some, AutoloaderLayout.hit?_relabel,
          Option.toList_map]
  | parameterOrder => exact ParameterOrder.hitsIn_relabel g h
  | inheritsAcrossNamespaces =>
    simp only [hitsIn, InheritsAcrossNamespaces.hitIn_relabel, Option.toList_map]
    split <;> rfl
  | nestedDeclarations =>
    simp only [hitsIn, tokens_map (kind_relabel g), NestedDeclarations.hitsAmong_relabel]
    split <;> rfl
  | variableScope extra => exact VariableScope.hitsIn_map (kind_relabel g) (fun _ ↦ rfl) extra h

theorem Check.looseHits_relabel (check : Check) (tokens : List Token) :
    check.looseHits (tokens.map (relabel g)) = (check.looseHits tokens).map (Hit.relabel g) := by
  cases check with
  | rightToLeft =>
    simp only [looseHits, RightToLeft.hits, List.filter_map, List.map_map]
    rfl
  | _ => rfl

/-- New positions for the tokens are new positions for the hits, and change nothing else. -/
theorem Check.hits_relabel (check : Check) (path : String) (tokens : List Token) :
    check.hits ⟨path, tokens.map (relabel g)⟩ =
      (check.hits ⟨path, tokens⟩).map (Hit.relabel g) := by
  rw [hits_eq, hits_eq, List.map_append, looseHits_relabel, locate_map (kind_relabel g),
    List.map_flatMap]
  congr 1
  apply List.flatMap_congr
  intro d hd
  obtain ⟨body, h⟩ := mem_locate_iff.mp hd
  exact hitsIn_relabel g check path h

theorem report_relabel (table : Option RuleTable) (path : String) (tokens : List Token)
    (r : Rule) : r.report table ⟨path, tokens.map (relabel g)⟩ =
      (r.report table ⟨path, tokens⟩).map (Finding.relabel g) := by
  unfold report findings
  split
  · rw [Check.hits_relabel]
    simp only [List.map_map]
    rfl
  · rfl

theorem Check.name_eq_layout_iff {check : Check} :
    check.name = "autoloader-layout" ↔ ∃ extension, check = .autoloaderLayout extension := by
  cases check <;> simp [name]

/-- Apart from the layout rule, the path of a manifest is the file of the findings and no more. -/
theorem report_inFile (table : Option RuleTable) (path other : String) (tokens : List Token)
    {r : Rule} (hr : r.name ≠ "autoloader-layout") :
    r.report table ⟨other, tokens⟩ =
      (r.report table ⟨path, tokens⟩).map (Finding.inFile other) := by
  have hhits : (r.configured table).check.hits ⟨other, tokens⟩ =
      (r.configured table).check.hits ⟨path, tokens⟩ := by
    rw [← name_configured table, name] at hr
    generalize (r.configured table).check = check at hr ⊢
    cases check with
    | autoloaderLayout extension => exact absurd rfl hr
    | _ => rfl
  unfold report findings
  split
  · rw [hhits]
    simp only [List.map_map]
    rfl
  · rfl

theorem report_layout_empty (table : Option RuleTable) (tokens : List Token) {r : Rule}
    (hr : r.name = "autoloader-layout") : r.report table ⟨"", tokens⟩ = [] := by
  rw [← name_configured table] at hr
  obtain ⟨extension, hcheck⟩ := Check.name_eq_layout_iff.mp hr
  unfold report findings
  rw [hcheck]
  split <;> rfl

end Rule

namespace Analyzer

/-- Positions and paths are labels. New positions for the tokens are new positions for the findings;
another path is another file for the findings of all rules but the layout rule; and without a path
that rule is silent. -/
theorem analyzeFile_labels (rules : List Rule) (config : Config) (tokens : List Token) :
    (∀ g path, (build rules config).analyzeFile ⟨path, tokens.map (relabel g)⟩ =
      ((build rules config).analyzeFile ⟨path, tokens⟩).map (Finding.relabel g)) ∧
    (∀ path other,
      ((build rules config).analyzeFile ⟨other, tokens⟩).filter (·.rule != "autoloader-layout") =
        (((build rules config).analyzeFile ⟨path, tokens⟩).filter
          (·.rule != "autoloader-layout")).map (Finding.inFile other)) ∧
    ∀ path, (build rules config).analyzeFile ⟨"", tokens⟩ =
      (((build rules config).analyzeFile ⟨path, tokens⟩).filter
        (·.rule != "autoloader-layout")).map (Finding.inFile "") := by
  refine ⟨fun g path ↦ ?_, fun path other ↦ ?_, fun path ↦ ?_⟩
  · simp only [analyzeFile_build, Rule.report_relabel, List.map_flatMap]
  · simp only [filter_analyzeFile (· != "autoloader-layout"), List.map_flatMap]
    apply List.flatMap_congr
    intro r _
    split
    next hr => exact Rule.report_inFile _ path other tokens (bne_iff_ne.mp hr)
    next => rfl
  · rw [filter_analyzeFile (· != "autoloader-layout"), analyzeFile_build, List.map_flatMap]
    apply List.flatMap_congr
    intro r _
    split
    next hr => exact Rule.report_inFile _ path "" tokens (bne_iff_ne.mp hr)
    next hr => exact Rule.report_layout_empty _ tokens (by simpa using hr)

end Analyzer

end ManifestLint
