import ManifestLint.Proofs.DeclarationHits
import ManifestLint.Proofs.Guarded

namespace ManifestLint.Guarded

open Token Stream Declaration Rule

def parametersFrom (stream : List Token) (last : Nat) :
    List Nat → Guarded (Except Event (Option (Nat × Nat)))
  | [] => return .ok none
  | i :: rest => do
    let t ← index stream i
    if t.kind = .leftBrace then return .ok none
    else if t.kind = .rightParen then
      let t ← index stream i
      return .error (.strayParen t.line t.column)
    else if t.kind = .leftParen then
      match ← matchingClose .paren stream i with
      | .ok close => return .ok (if close ≤ last then some (i, close) else none)
      | .error cause => return .error (.parametersUnclosed cause)
    else parametersFrom stream last rest

def searchParameters (stream : List Token) (d : Declaration) :
    Guarded (Except Event (Option (Nat × Nat))) := do
  let last := min d.last (stream.length - 1)
  let first ← add d.name 1
  parametersFrom stream last (List.range' first (last + 1 - first))

def declarationTokens (stream : List Token) (d : Declaration) (offset : Nat) :
    Guarded (List Token) := do
  let first ← add d.start offset
  return significant stream first d.last

def lateFrom (depth : Nat) (seenDefault : Bool) (previous : Option Token.Kind) :
    List Token → Guarded (List Token × Option Token)
  | [] => return ([], none)
  | t :: rest =>
    if ParameterOrder.isOpening t.kind then do
      let depth ← add depth 1
      lateFrom depth seenDefault (some t.kind) rest
    else if ParameterOrder.isClosing t.kind then
      match depth with
      | 0 => return ([], some t)
      | depth + 1 => lateFrom depth seenDefault (some t.kind) rest
    else if 0 < depth then lateFrom depth seenDefault (some t.kind) rest
    else if t.kind = .equals then lateFrom 0 true (some t.kind) rest
    else if seenDefault && ParameterOrder.endsParameter previous t rest then do
      let found ← lateFrom 0 seenDefault (some t.kind) rest
      return (t :: found.1, found.2)
    else lateFrom 0 seenDefault (some t.kind) rest

def parameterOrder (stream : List Token) (d : Declaration) : Guarded (List Hit × List Event) := do
  let search ← searchParameters stream d
  match found search with
  | none => return ([], failure search)
  | some r =>
    let first ← add r.1 1
    let last ← sub r.2 1
    let late ← lateFrom 0 false none (significant stream first last)
    return (late.1.map ParameterOrder.hit,
      failure search ++ late.2.toList.map fun t ↦ .defaultUnbalanced t.line t.column)

def inheritsIndex (view : List Token) : Guarded (Option Nat) :=
  if kindAt view 2 = some .leftParen then do
    match ← matchingClose .paren view 2 with
    | .ok close =>
      let i ← add close 1
      return some i
    | .error _ => return none
  else return some 2

def inheritsAcrossNamespaces (stream : List Token) (d : Declaration) : Guarded (Option Hit) := do
  let view ← declarationTokens stream d 0
  match ← inheritsIndex view with
  | none => return none
  | some i =>
    if kindAt view i = some .inheritsWord then
      let next ← add i 1
      match view[next]? with
      | none => return none
      | some parent =>
        let child ← index stream d.name
        return if InheritsAcrossNamespaces.isWithin child.text.toList parent.text.toList then none
          else some (InheritsAcrossNamespaces.hit parent)
    else return none

def variableScope (extra : List String) (stream : List Token) (d : Declaration) :
    Guarded (List Hit × List Event) := do
  let search ← searchParameters stream d
  let parameters := match found search with
    | some r => VariableScope.parameterNames (significant stream r.1 r.2)
    | none => []
  let view ← declarationTokens stream d 0
  let known := VariableScope.builtinVariables ++ extra ++ parameters ++
    VariableScope.assignedNames view
  let hits := ((VariableScope.references view).filter fun t ↦
    !VariableScope.isExempt t.variableName && !known.contains t.variableName).map VariableScope.hit
  return (hits, failure search)

def checkIn (path : String) (stream : List Token) (d : Declaration) :
    Rule.Check → Guarded (List Hit × List Event)
  | .rightToLeft => return ([], [])
  | .autoloaderLayout extension =>
    if path.isEmpty then return ([], [])
    else do
      let name ← index stream d.name
      return ((AutoloaderLayout.hit? extension path name).toList, [])
  | .parameterOrder => parameterOrder stream d
  | .inheritsAcrossNamespaces =>
    if d.isClass then do
      let hit ← inheritsAcrossNamespaces stream d
      return (hit.toList, [])
    else return ([], [])
  | .nestedDeclarations =>
    if d.isClass then do
      let view ← declarationTokens stream d 1
      return (NestedDeclarations.hitsAmong view, [])
    else return ([], [])
  | .variableScope extra => variableScope extra stream d

def runRule (config : Config) (m : Manifest) (located : List Declaration) (r : Rule) :
    Guarded (List Finding × List Event) :=
  if config.isEnabled r.name then do
    let parts ← located.mapM fun d ↦ checkIn m.path m.tokens d r.check
    let hits := r.check.looseHits m.tokens ++ parts.flatMap (·.1)
    return ((hits.map (r.finding m.path)).map (Analyzer.override (config.severity? r.name)),
      parts.flatMap (·.2))
  else return ([], [.ruleDisabled r.name])

/-- The findings in a file and the events on the way. Declarations are located once for all
rules. -/
def analyzeFile (a : Analyzer Rule) (m : Manifest) : Guarded (List Finding × List Event) := do
  let examined ← examineAll m.tokens
  let located := examined.filterMap Except.toOption
  let skipped := examined.filterMap fun
    | .ok _ => none
    | .error event => some event
  let parts ← a.rules.mapM (runRule a.config m located)
  return (parts.flatMap (·.1),
    .analyzingFile m.path :: skipped ++ parts.flatMap (·.2))

section Search

variable {stream : List Token} {d : Declaration} {body : Nat}

theorem parametersFrom_eq_ok (h : stream.length < 2 ^ 63) {last i n : Nat}
    (hlast : last < stream.length) (hn : i + n = last + 1) :
    parametersFrom stream last (List.range' i n) =
      .ok (Declaration.parametersFrom stream last i (slice stream i last)) := by
  induction n generalizing i with
  | zero =>
    have hnil : slice stream i last = [] := by
      rw [slice, show last + 1 - i = 0 by omega, List.take_zero]
    rw [hnil]
    rfl
  | succ n ih =>
    obtain ⟨t, ht⟩ : ∃ t, stream[i]? = some t := ⟨_, List.getElem?_eq_getElem (by omega)⟩
    rw [List.range'_succ, slice_eq_cons ht (by omega), parametersFrom, Declaration.parametersFrom,
      index_eq_ok ht, ok_bind]
    by_cases hb : t.kind = .leftBrace
    · rw [if_pos hb, if_pos hb]
      rfl
    · rw [if_neg hb, if_neg hb]
      by_cases hc : t.kind = .rightParen
      · rw [if_pos hc, if_pos hc]
        rfl
      · rw [if_neg hc, if_neg hc]
        by_cases ho : t.kind = .leftParen
        · rw [if_pos ho, if_pos ho, matchingClose_eq_ok h, ok_bind]
          cases Delimiter.paren.matchingClose stream i <;> rfl
        · rw [if_neg ho, if_neg ho, ih (by omega)]

theorem searchParameters_eq_ok (h : stream.length < 2 ^ 63) (hd : IsDeclaration stream d body) :
    searchParameters stream d = .ok (Declaration.searchParameters stream (d.name + 1) d.last) := by
  have hlast := hd.closed.lt_length
  have hname : d.name < d.last := hd.name_lt_body.trans hd.body_lt_last
  have hmin : min d.last (stream.length - 1) = d.last := by omega
  have hfirst : add d.name 1 = .ok (d.name + 1) := add_eq_ok (by omega)
  unfold searchParameters
  rw [hmin, hfirst, ok_bind, parametersFrom_eq_ok h hlast (by omega)]
  rfl

theorem declarationTokens_eq_ok (h : stream.length < 2 ^ 63) (hd : IsDeclaration stream d body)
    {offset : Nat} (hoffset : offset ≤ 1) :
    declarationTokens stream d offset = .ok (d.tokens stream offset) := by
  have hstart := hd.significantAt_start.lt_length
  rw [declarationTokens, add_eq_ok (by omega), ok_bind]
  rfl

end Search

section Rules

variable {stream : List Token} {d : Declaration} {body : Nat}

theorem lateFrom_eq_ok {depth : Nat} {seenDefault : Bool} {previous : Option Token.Kind}
    {l : List Token} (h : depth + l.length < 2 ^ 64) :
    lateFrom depth seenDefault previous l =
      .ok (ParameterOrder.lateFrom depth seenDefault previous l,
        ParameterOrder.strayClose depth l) := by
  induction l generalizing depth seenDefault previous with
  | nil => rfl
  | cons t l ih =>
    rw [List.length_cons] at h
    have hup : add depth 1 = .ok (depth + 1) := add_eq_ok (by omega)
    rw [lateFrom.eq_def, ParameterOrder.lateFrom.eq_def, ParameterOrder.strayClose.eq_def]
    dsimp only
    by_cases ho : ParameterOrder.isOpening t.kind
    · rw [if_pos ho, if_pos ho, if_pos ho, hup, ok_bind, ih (by omega)]
    · rw [if_neg ho, if_neg ho, if_neg ho]
      by_cases hc : ParameterOrder.isClosing t.kind
      · rw [if_pos hc, if_pos hc, if_pos hc]
        cases depth with
        | zero => rfl
        | succ depth => exact ih (by omega)
      · rw [if_neg hc, if_neg hc, if_neg hc]
        by_cases hdepth : 0 < depth
        · rw [if_pos hdepth, if_pos hdepth, ih (by omega)]
        · obtain rfl : depth = 0 := by omega
          rw [if_neg hdepth, if_neg hdepth]
          by_cases he : t.kind = .equals
          · rw [if_pos he, if_pos he, ih (by omega)]
          · rw [if_neg he, if_neg he, ih (by omega)]
            split <;> rfl

theorem length_significant_le (stream : List Token) (first last : Nat) :
    (significant stream first last).length ≤ stream.length := by
  have hfilter := List.length_filter_le isSignificant (slice stream first last)
  have hslice : (slice stream first last).length ≤ stream.length := by
    rw [slice, List.length_take, List.length_drop]
    omega
  exact hfilter.trans hslice

theorem parameterOrder_eq_ok (h : stream.length < 2 ^ 63) (hd : IsDeclaration stream d body) :
    parameterOrder stream d = .ok (ParameterOrder.hitsIn stream d,
      ParameterOrder.eventsIn stream d) := by
  have hp := parameters_of_isDeclaration hd
  unfold parameterOrder ParameterOrder.hitsIn ParameterOrder.eventsIn ParameterOrder.interior
  rw [searchParameters_eq_ok h hd, ok_bind, ← parameters, ← parameterEvents]
  generalize d.parameters stream = r at hp ⊢
  cases hp with
  | absent =>
    simp only [Option.map_none, Option.bind_none, List.append_nil]
    rfl
  | @list o k first closed before =>
    have hk := closed.lt_length
    have hok := closed.lt
    have hlen := length_significant_le stream (o + 1) (k - 1)
    have hfirst : add o 1 = .ok (o + 1) := add_eq_ok (by omega)
    have hlast : sub k 1 = .ok (k - 1) := sub_eq_ok (by omega)
    have hlate : lateFrom 0 false none (significant stream (o + 1) (k - 1)) = .ok _ :=
      lateFrom_eq_ok (by omega)
    simp only [hfirst, hlast, hlate, ok_bind, Option.map_some, Option.bind_some]
    cases ParameterOrder.strayClose 0 (significant stream (o + 1) (k - 1)) <;> rfl

theorem inheritsIndex_eq_ok {view : List Token} (h : view.length < 2 ^ 63) :
    inheritsIndex view = .ok (InheritsAcrossNamespaces.inheritsIndex view) := by
  unfold inheritsIndex InheritsAcrossNamespaces.inheritsIndex
  by_cases hp : kindAt view 2 = some .leftParen
  · rw [if_pos hp, if_pos hp, matchingClose_eq_ok h, ok_bind]
    cases hc : Delimiter.paren.matchingClose view 2 with
    | error cause => rfl
    | ok close =>
      have hlt := (Delimiter.matchingClose_eq_ok_iff.mp hc).lt_length
      have hnext : add close 1 = .ok (close + 1) := add_eq_ok (by omega)
      simp only [hnext, ok_bind]
      rfl
  · rw [if_neg hp, if_neg hp]
    rfl

theorem inheritsAcrossNamespaces_eq_ok (h : stream.length < 2 ^ 63)
    (hd : IsDeclaration stream d body) :
    inheritsAcrossNamespaces stream d = .ok (InheritsAcrossNamespaces.hitIn stream d) := by
  have hlen : (d.tokens stream 0).length < 2 ^ 63 :=
    (length_significant_le stream _ _).trans_lt h
  obtain ⟨name, hname, _⟩ := hd.significantAt_name
  unfold inheritsAcrossNamespaces InheritsAcrossNamespaces.hitIn InheritsAcrossNamespaces.parent?
  rw [declarationTokens_eq_ok h hd (Nat.zero_le 1), ok_bind, inheritsIndex_eq_ok hlen, ok_bind]
  generalize d.tokens stream 0 = view at hlen ⊢
  cases InheritsAcrossNamespaces.inheritsIndex view with
  | none => rfl
  | some i =>
    simp only [Option.bind_eq_bind, Option.bind_some]
    by_cases hk : kindAt view i = some .inheritsWord
    · have hlt := lt_length_of_kindAt hk
      have hnext : add i 1 = .ok (i + 1) := add_eq_ok (by omega)
      rw [if_pos hk, if_pos hk, hnext, ok_bind, index_eq_ok hname, hname]
      cases view[i + 1]? with
      | none => rfl
      | some parent => rfl
    · rw [if_neg hk, if_neg hk]
      rfl

theorem variableScope_eq_ok (h : stream.length < 2 ^ 63) (hd : IsDeclaration stream d body)
    (extra : List String) : variableScope extra stream d =
      .ok (VariableScope.hitsIn extra stream d, d.parameterEvents stream) := by
  unfold variableScope VariableScope.hitsIn VariableScope.scope
  rw [searchParameters_eq_ok h hd, ok_bind, ← parameters, ← parameterEvents,
    declarationTokens_eq_ok h hd (Nat.zero_le 1), ok_bind]
  rfl

/-- In a located declaration no check meets a guard. -/
theorem checkIn_eq_ok (h : stream.length < 2 ^ 63) (hd : IsDeclaration stream d body)
    (path : String) (check : Rule.Check) :
    checkIn path stream d check = .ok (check.hitsIn path stream d, check.eventsIn stream d) := by
  cases check with
  | rightToLeft => rfl
  | autoloaderLayout extension =>
    obtain ⟨name, hname, _⟩ := hd.significantAt_name
    simp only [checkIn, Check.hitsIn, Check.eventsIn, index_eq_ok hname, ok_bind, hname,
      Option.bind_some]
    split <;> rfl
  | parameterOrder => exact parameterOrder_eq_ok h hd
  | inheritsAcrossNamespaces =>
    simp only [checkIn, Check.hitsIn, Check.eventsIn, inheritsAcrossNamespaces_eq_ok h hd, ok_bind]
    split <;> rfl
  | nestedDeclarations =>
    simp only [checkIn, Check.hitsIn, Check.eventsIn, declarationTokens_eq_ok h hd le_rfl, ok_bind]
    split <;> rfl
  | variableScope extra => exact variableScope_eq_ok h hd extra

end Rules

theorem runRule_eq_ok {m : Manifest} (h : m.tokens.length < 2 ^ 63) (config : Config) (r : Rule) :
    runRule config m (locate m.tokens) r =
      .ok (Analyzer.runRule config m r, Analyzer.ruleEvents config m r) := by
  have hparts : (locate m.tokens).mapM (fun d ↦ checkIn m.path m.tokens d r.check) =
      .ok ((locate m.tokens).map fun d ↦
        (r.check.hitsIn m.path m.tokens d, r.check.eventsIn m.tokens d)) := by
    apply mapM_eq_ok
    intro d hd
    obtain ⟨body, hd⟩ := mem_locate_iff.mp hd
    exact checkIn_eq_ok h hd m.path r.check
  rw [runRule, Rule.runRule_eq, Rule.ruleEvents_eq, hparts, ok_bind, List.flatMap_map,
    List.flatMap_map, Check.events_eq, Check.hits_eq]
  split <;> rfl

/-- On a stream that fits in memory the analysis meets no guard: no index lies outside its list, no
sum or difference of indices outside the words, and the result is that of the run without guards. -/
theorem analyzeFile_eq_ok (a : Analyzer Rule) (m : Manifest) (h : m.tokens.length < 2 ^ 63) :
    analyzeFile a m = .ok (a.analyzeFile m, a.fileEvents m) := by
  unfold analyzeFile
  rw [examineAll_eq_ok h, ok_bind]
  have hparts := mapM_eq_ok (l := a.rules) fun r _ ↦ runRule_eq_ok h a.config r
  rw [locate] at hparts
  dsimp only
  rw [hparts, ok_bind, List.flatMap_map, List.flatMap_map]
  rfl

/-- A declaration whose default value is not balanced, and one without a body. -/
theorem analyzeFile_eq_ok_stray :
    let m : Manifest := ⟨"", ofKinds [.classWord, .name, .leftParen, .variable, .equals,
      .rightBrace, .rightParen, .leftBrace, .rightBrace, .defineWord, .name, .rightParen]⟩
    let a := Analyzer.build Rule.all .empty
    m.tokens.length < 2 ^ 63 ∧ (locate m.tokens).length = 1 ∧
      analyzeFile a m = .ok (a.analyzeFile m, a.fileEvents m) :=
  ⟨by decide, by decide, analyzeFile_eq_ok _ _ (by decide)⟩

end ManifestLint.Guarded

namespace ManifestLint

theorem Report.addFile_eq_ok {r : Report} (h : r.filesChecked.toNat + 1 < 2 ^ 64)
    (findings : List Finding) : r.addFile findings =
      .ok ⟨r.findings ++ findings, UInt64.ofNat (r.filesChecked.toNat + 1)⟩ := by
  rw [addFile, Guarded.add_eq_ok h, Guarded.ok_bind]
  rfl

namespace Analyzer

universe u

variable {ρ : Type u} [RuleLike ρ]

theorem foldlM_addFile (a : Analyzer ρ) (ms : List Manifest) (r : Report)
    (h : r.filesChecked.toNat + ms.length < 2 ^ 64) :
    ms.foldlM (fun r m ↦ r.addFile (a.analyzeFile m)) r =
      .ok ⟨r.findings ++ ms.flatMap a.analyzeFile,
        UInt64.ofNat (r.filesChecked.toNat + ms.length)⟩ := by
  induction ms generalizing r with
  | nil =>
    rw [List.flatMap_nil, List.append_nil, List.length_nil, Nat.add_zero, UInt64.ofNat_toNat]
    rfl
  | cons m ms ih =>
    rw [List.length_cons] at h
    have hfiles : (UInt64.ofNat (r.filesChecked.toNat + 1)).toNat = r.filesChecked.toNat + 1 :=
      UInt64.toNat_ofNat_of_lt' (show _ + 1 < 2 ^ 64 by omega)
    rw [List.foldlM_cons, Report.addFile_eq_ok (by omega), Guarded.ok_bind,
      ih _ (by rw [hfiles]; omega), hfiles, List.flatMap_cons, List.append_assoc, List.length_cons,
      Nat.add_assoc, Nat.add_comm 1]

/-- A run adds its files to the empty report one by one. -/
theorem analyze_eq_foldlM (a : Analyzer ρ) {ms : List Manifest} (h : ms.length < 2 ^ 64) :
    ms.foldlM (fun r m ↦ r.addFile (a.analyzeFile m)) Report.empty = .ok (a.analyze ms) := by
  have hzero : Report.empty.filesChecked.toNat = 0 := rfl
  rw [foldlM_addFile a ms .empty (by omega), hzero, Nat.zero_add, analyze]
  rfl

end Analyzer

end ManifestLint
