import ManifestLint.Proofs.Selection
import ManifestLint.Report.Text
import ManifestLint.Rule
import Mathlib.Data.List.Basic
import Mathlib.Data.List.Flatten

namespace ManifestLint

open Text

namespace Path

/-- An empty part of a path does not count, and a dot counts only if it is the first part. -/
def counts (part : List Char × Nat) : Bool := part.1 != [] && (part.1 != ['.'] || part.2 == 0)

def parts (path : String) : List (List Char) :=
  ((path.toList.splitOn '/').zipIdx.filter counts).map Prod.fst

/-- Both paths start at the root or neither does, and they have the same parts. -/
def Equal (p q : String) : Prop :=
  (p.toList.head? = some '/' ↔ q.toList.head? = some '/') ∧ parts p = parts q

instance (p q : String) : Decidable (Equal p q) := inferInstanceAs (Decidable (_ ∧ _))

theorem map_filter_counts (l : List (List Char)) {n : Nat} (hn : 0 < n) :
    ((l.zipIdx n).filter counts).map Prod.fst = l.filter fun c ↦ c != [] && c != ['.'] := by
  induction l generalizing n with
  | nil => rfl
  | cons c l ih =>
    have hcounts : counts (c, n) = (c != [] && c != ['.']) := by
      simp [counts, beq_eq_false_iff_ne.mpr hn.ne']
    rw [List.zipIdx_cons, List.filter_cons, List.filter_cons, hcounts, ← ih (Nat.succ_pos n)]
    split <;> rfl

theorem components_eq (path : String) : components path = parts path := by
  rw [components, parts, ← splitAt_eq_splitOn]
  cases splitAt '/' path.toList with
  | nil => rfl
  | cons first rest =>
    rw [List.zipIdx_cons, List.filter_cons]
    by_cases hfirst : first = []
    · rw [if_neg (by simp [counts, hfirst]), map_filter_counts rest Nat.one_pos]
      exact if_pos hfirst
    · rw [if_pos (by simp [counts, hfirst]), List.map_cons, map_filter_counts rest Nat.one_pos]
      exact if_neg hfirst

theorem same_iff {p q : String} : same p q = true ↔ Equal p q := by
  rw [same, Equal, components_eq, components_eq, isAbsolute, isAbsolute, Bool.and_eq_true, beq_iff_eq,
    beq_iff_eq, Bool.eq_iff_iff, beq_iff_eq, beq_iff_eq]

example : Equal "a//b/./c/" "a/b/c" ∧ ¬ Equal "./a" "a" := by decide +kernel

theorem same_self (path : String) : same path path = true := by
  simp [same]

end Path

namespace Report

theorem findingsLines_append {path : String} {findings : List Finding}
    (h : ∀ f ∈ findings, f.location.file = path) (rest : List Finding) :
    findingsLines (some path) (findings ++ rest) =
      findings.flatMap findingLines ++ findingsLines (some path) rest := by
  induction findings with
  | nil => rfl
  | cons f findings ih =>
    have hf : f.location.file = path := h f List.mem_cons_self
    have hrest := ih fun f' hf' ↦ h f' (List.mem_cons_of_mem f hf')
    simp [findingsLines, hf, Path.same_self, hrest]

/-- Findings that come manifest by manifest are written under one header for each manifest that has
some, as long as the paths differ from each other and from the one before. -/
theorem findingsLines_flatMap {ms : List Manifest} {found : Manifest → List Finding}
    (hfile : ∀ m ∈ ms, ∀ f ∈ found m, f.location.file = m.path)
    (hms : ms.Pairwise fun m n ↦ ¬ Path.same m.path n.path) {current : Option String}
    (hcurrent : ∀ path ∈ current, ∀ m ∈ ms, ¬ Path.same path m.path) :
    findingsLines current (ms.flatMap found) = (ms.filter fun m ↦ found m ≠ []).flatMap fun m ↦
      header m.path :: (found m).flatMap findingLines := by
  induction ms generalizing current with
  | nil => rfl
  | cons m ms ih =>
    obtain ⟨hm, hms⟩ := List.pairwise_cons.mp hms
    have hrest : ∀ n ∈ ms, ∀ f ∈ found n, f.location.file = n.path :=
      fun n hn ↦ hfile n (List.mem_cons_of_mem m hn)
    cases hfound : found m with
    | nil =>
      have hnext := ih hrest hms fun path hp n hn ↦ hcurrent path hp n (List.mem_cons_of_mem m hn)
      simp [hfound, hnext]
    | cons f findings =>
      have hf : ∀ f' ∈ f :: findings, f'.location.file = m.path :=
        hfound ▸ hfile m List.mem_cons_self
      have hhead : current.any (Path.same · m.path) = false := by
        cases current with
        | none => rfl
        | some path => simpa using hcurrent path rfl m List.mem_cons_self
      have hnext := @ih hrest hms (some m.path) (by simpa using hm)
      have hlines := findingsLines_append (fun f' hf' ↦ hf f' (List.mem_cons_of_mem f hf'))
        (ms.flatMap found)
      simp [findingsLines, hfound, hf f List.mem_cons_self, hhead, hlines, hnext]

def blanks (n : Nat) : String := String.ofList (List.replicate n ' ')

def severityText : Severity → String
  | .error => "\x1b[31merror\x1b[0m"
  | .warning => "\x1b[33mwarning\x1b[0m"

/-- The line number ends in the sixth column, and the column number begins in the eighth. -/
def findingLine (f : Finding) : String :=
  let line := toString f.location.line.toNat
  let column := toString f.location.column.toNat
  "  " ++ (blanks (4 - line.length) ++ line) ++ ":" ++ (column ++ blanks (3 - column.length)) ++
    " " ++ severityText f.severity ++ " " ++ f.message ++ " [" ++ f.code ++ " " ++ f.rule ++ "]"

def helpLine (suggestion : String) : String := "           = help: " ++ suggestion

/-- What stands in a report of the findings at a path. -/
def entry (path : String) (findings : List Finding) : List String :=
  (if path = "" then "<unknown manifest>" else path) ::
    findings.flatMap fun f ↦ findingLine f :: f.suggestion.toList.map helpLine

def closing (errors warnings files : Nat) : String :=
  (if 0 < errors then "\x1b[31m" else if 0 < warnings then "\x1b[33m" else "\x1b[32m") ++ "Found " ++
    toString errors ++ " error(s), " ++ toString warnings ++ " warning(s) in " ++ toString files ++
      " file(s)" ++ "\x1b[0m"

theorem findingLines_eq (f : Finding) :
    findingLines f = findingLine f :: f.suggestion.toList.map helpLine := by
  have hseverity : color f.severity ++ f.severity.label ++ reset = severityText f.severity := by
    cases f.severity <;> decide
  rw [findingLines, hseverity]
  exact congrArg₂ List.cons rfl rfl

theorem header_eq (path : String) :
    header path = if path = "" then "<unknown manifest>" else path := by
  simp [header]

theorem summary_eq (r : Report) :
    r.summary = closing (r.findings.filter (·.severity = .error)).length
      (r.findings.filter (·.severity = .warning)).length r.filesChecked.toNat := by
  have hcount (s : Severity) : r.count s = (r.findings.filter (·.severity = s)).length :=
    List.countP_eq_length_filter
  rw [summary, hcount, hcount]
  rfl

theorem cons_flatMap_findingLines (path : String) (findings : List Finding) :
    header path :: findings.flatMap findingLines = entry path findings := by
  rw [entry, header_eq, funext findingLines_eq]

end Report

theorem Rule.file_of_mem_findings {r : Rule} {m : Manifest} {f : Finding} (h : f ∈ r.findings m) :
    f.location.file = m.path := by
  obtain ⟨hit, _, rfl⟩ := List.mem_map.mp h
  rfl

namespace Analyzer

universe u

variable {ρ : Type u} [RuleLike ρ] {a : Analyzer ρ} {ms : List Manifest}

theorem file_of_mem_analyzeFile {m : Manifest}
    (h : ∀ r ∈ a.rules, ∀ f ∈ RuleLike.findings r m, f.location.file = m.path) {f : Finding}
    (hf : f ∈ a.analyzeFile m) : f.location.file = m.path := by
  obtain ⟨r, hr, hf⟩ := List.mem_flatMap.mp hf
  unfold runRule at hf
  split at hf
  · obtain ⟨g, hg, rfl⟩ := List.mem_map.mp hf
    exact h r hr g hg
  · cases hf

theorem filter_flatMap_path {found : Manifest → List Finding}
    (hfile : ∀ m ∈ ms, ∀ f ∈ found m, f.location.file = m.path)
    (hms : ms.Pairwise fun m n ↦ m.path ≠ n.path) :
    ∀ m ∈ ms, (ms.flatMap found).filter (·.location.file = m.path) = found m := by
  induction ms with
  | nil => exact fun m hm ↦ absurd hm List.not_mem_nil
  | cons n ms ih =>
    obtain ⟨hn, hms⟩ := List.pairwise_cons.mp hms
    have hrest : ∀ m ∈ ms, ∀ f ∈ found m, f.location.file = m.path :=
      fun m hm ↦ hfile m (List.mem_cons_of_mem n hm)
    have hfirst := hfile n List.mem_cons_self
    intro m hm
    rw [List.flatMap_cons, List.filter_append]
    rcases List.mem_cons.mp hm with rfl | hm
    · have hall : (found m).filter (·.location.file = m.path) = found m :=
        List.filter_eq_self.mpr fun f hf ↦ decide_eq_true (hfirst f hf)
      have hnone : (ms.flatMap found).filter (·.location.file = m.path) = [] := by
        apply List.filter_eq_nil_iff.mpr
        intro f hf
        obtain ⟨n, hn', hf⟩ := List.mem_flatMap.mp hf
        simpa [hrest n hn' f hf] using (hn n hn').symm
      rw [hall, hnone, List.append_nil]
    · have hnone : (found n).filter (·.location.file = m.path) = [] := by
        apply List.filter_eq_nil_iff.mpr
        intro f hf
        simpa [hfirst f hf] using hn m hm
      rw [hnone, List.nil_append, ih hrest hms m hm]

/-- The report on manifests with different paths has an entry for each manifest with findings, in
the order of the manifests, and then a line with the numbers of errors, warnings and manifests. The
findings of a manifest stand in the order of the rules. Rules may be of any sort, as long as they
report in the manifest that they are given, which the rules of this library do. -/
theorem renderText_analyze :
    (∀ (r : Rule) (m : Manifest), ∀ f ∈ r.findings m, f.location.file = m.path) ∧
    ∀ {ρ : Type u} [RuleLike ρ] (a : Analyzer ρ) (ms : List Manifest),
      (∀ m ∈ ms, ∀ r ∈ a.rules, ∀ f ∈ RuleLike.findings r m, f.location.file = m.path) →
      (ms.Pairwise fun m n ↦ ¬ Path.Equal m.path n.path) →
      let findings := (a.analyze ms).findings
      let found := fun m : Manifest ↦ findings.filter (·.location.file = m.path)
      let files := (a.analyze ms).filesChecked.toNat
      (a.analyze ms).renderText =
          String.join (((ms.filter fun m ↦ found m ≠ []).flatMap (fun m ↦
            Report.entry m.path (found m)) ++
              [Report.closing (findings.filter (·.severity = .error)).length
                (findings.filter (·.severity = .warning)).length files]).map (· ++ "\n")) ∧
        (∀ m ∈ ms, found m = a.rules.flatMap fun r ↦
          if a.config.isEnabled (RuleLike.name r) then
            (RuleLike.findings r m).map fun f ↦
              { f with severity := (a.config.severity? (RuleLike.name r)).getD f.severity }
          else []) ∧
        (ms.length < UInt64.size → files = ms.length) := by
  refine ⟨fun r m f hf ↦ r.file_of_mem_findings hf, fun a ms hrules hms ↦ ?_⟩
  intro findings found files
  have hfile : ∀ m ∈ ms, ∀ f ∈ a.analyzeFile m, f.location.file = m.path :=
    fun m hm f hf ↦ file_of_mem_analyzeFile (hrules m hm) hf
  simp only [← Path.same_iff] at hms
  have hpaths : ms.Pairwise fun m n ↦ m.path ≠ n.path := by
    refine hms.imp fun {m n} hdiffer heq ↦ hdiffer ?_
    rw [heq, Path.same_self]
  have hfound : ∀ m ∈ ms, found m = a.analyzeFile m := filter_flatMap_path hfile hpaths
  refine ⟨?_, fun m hm ↦ hfound m hm, UInt64.toNat_ofNat_of_lt⟩
  have hnone : ∀ path ∈ (none : Option String), ∀ m ∈ ms, ¬ Path.same path m.path := by simp
  have hlines := Report.findingsLines_flatMap hfile hms hnone
  have hfilter : (ms.filter fun m ↦ a.analyzeFile m ≠ []) = ms.filter fun m ↦ found m ≠ [] :=
    List.filter_congr fun m hm ↦ by rw [hfound m hm]
  have hentries : ∀ m ∈ ms.filter (fun m ↦ found m ≠ []),
      Report.header m.path :: (a.analyzeFile m).flatMap Report.findingLines =
        Report.entry m.path (found m) := by
    intro m hm
    rw [hfound m (List.mem_of_mem_filter hm), Report.cons_flatMap_findingLines]
  rw [hfilter, List.flatMap_congr hentries] at hlines
  rw [Report.renderText, Report.summary_eq, joinLines]
  change String.join ((Report.findingsLines none (ms.flatMap a.analyzeFile) ++ _).map _) = _
  rw [hlines]

structure KindRule where
  name : String
  kind : Token.Kind

instance : RuleLike KindRule where
  name := KindRule.name
  configure _ r := r
  findings r m := (m.tokens.filter (·.kind = r.kind)).map fun t ↦
    ⟨"TEST001", r.name, .error, .ofToken m.path t, s!"{t.text} block", none⟩
  events _ _ := []

/-- Rules of two sorts, a manifest without a path, one without findings, and two paths that differ by
a dot. -/
theorem renderText_analyze_unknown :
    let a : Analyzer (Rule ⊕ KindRule) :=
      ⟨[.inl Rule.Check.rightToLeft.toRule, .inr ⟨"no-node-blocks", .nodeWord⟩], .empty⟩
    let edge : Token := ⟨.outEdge, "<-", 1, 6⟩
    let ms : List Manifest := [⟨"", [edge]⟩, ⟨"b.pp", []⟩,
      ⟨"a.pp", [⟨.nodeWord, "node", 1, 1⟩, edge]⟩, ⟨"./a.pp", [⟨.nodeWord, "node", 12, 104⟩]⟩]
    (∀ m ∈ ms, ∀ r ∈ a.rules, ∀ f ∈ RuleLike.findings r m, f.location.file = m.path) ∧
      ms.Pairwise (fun m n ↦ ¬ Path.Equal m.path n.path) ∧
      (a.analyze ms).renderText = "<unknown manifest>\n" ++
        "     1:6   \x1b[33mwarning\x1b[0m right-to-left (<-) relationship " ++
          "[PL001 right-to-left-relationship]\n" ++
        "           = help: Swap the operands and use the left-to-right (->) operator\n" ++
        "a.pp\n" ++
        "     1:6   \x1b[33mwarning\x1b[0m right-to-left (<-) relationship " ++
          "[PL001 right-to-left-relationship]\n" ++
        "           = help: Swap the operands and use the left-to-right (->) operator\n" ++
        "     1:1   \x1b[31merror\x1b[0m node block [TEST001 no-node-blocks]\n" ++
        "./a.pp\n" ++
        "    12:104 \x1b[31merror\x1b[0m node block [TEST001 no-node-blocks]\n" ++
        "\x1b[31mFound 2 error(s), 2 warning(s) in 4 file(s)\x1b[0m\n" := by
  intro a edge ms
  have hrules : ∀ m ∈ ms, ∀ r ∈ a.rules, ∀ f ∈ RuleLike.findings r m, f.location.file = m.path := by
    decide +kernel
  have h : ms.Pairwise fun m n ↦ ¬ Path.Equal m.path n.path := by decide +kernel
  obtain ⟨htext, -, hfiles⟩ := renderText_analyze.2 a ms hrules h
  rw [hfiles (by decide)] at htext
  exact ⟨hrules, h, htext.trans (by decide +kernel)⟩

end Analyzer

end ManifestLint
