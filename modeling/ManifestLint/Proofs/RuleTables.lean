import ManifestLint.Rule
import ManifestLint.Proofs.Stream
import Mathlib.Data.List.Basic
import Mathlib.Data.List.Flatten

namespace ManifestLint

open Token

def RuleTable.blank : RuleTable := ⟨none, none, []⟩

namespace Rule

variable {table : Option RuleTable} {m : Manifest} {r : Rule}

def configured (table : Option RuleTable) (r : Rule) : Rule :=
  (table.map fun table ↦ r.configure table).getD r

/-- The findings of a rule in a manifest under the table that it has, if it has one. -/
def report (table : Option RuleTable) (m : Manifest) (r : Rule) : List Finding :=
  if (table.bind (·.enabled)).getD true then
    ((r.configured table).findings m).map (Analyzer.override (table.bind (·.severity)))
  else []

theorem Check.name_configure (table : RuleTable) (check : Check) :
    (check.configure table).name = check.name := by
  cases check with
  | autoloaderLayout extension => simp only [configure]; split <;> rfl
  | variableScope extra => simp only [configure]; split <;> rfl
  | _ => rfl

theorem name_configured (table : Option RuleTable) (r : Rule) :
    (r.configured table).name = r.name := by
  cases table with
  | none => rfl
  | some table => exact r.check.name_configure table

theorem rule_of_mem_report {f : Finding} (h : f ∈ r.report table m) : f.rule = r.name := by
  unfold report at h
  split at h
  · simp only [findings, List.map_map, List.mem_map] at h
    obtain ⟨hit, _, rfl⟩ := h
    exact name_configured table r
  · cases h

theorem filter_report (p : String → Bool) (table : Option RuleTable) (m : Manifest) (r : Rule) :
    (r.report table m).filter (fun f ↦ p f.rule) = if p r.name then r.report table m else [] := by
  split
  next hp =>
    rw [List.filter_eq_self]
    intro f hf
    rw [rule_of_mem_report hf, hp]
  next hp =>
    rw [List.filter_eq_nil_iff]
    intro f hf
    rwa [rule_of_mem_report hf]

theorem Check.configure_of_options_eq {t t' : RuleTable} (h : t.options = t'.options)
    (check : Check) : check.configure t = check.configure t' := by
  obtain ⟨enabled, severity, options⟩ := t
  obtain ⟨enabled', severity', options'⟩ := t'
  subst h
  cases check <;> rfl

theorem Check.configure_blank (check : Check) : check.configure .blank = check := by
  cases check <;> rfl

theorem configured_edit (r : Rule) (table : Option RuleTable) (edit : RuleTable → RuleTable)
    (h : ∀ t, (edit t).options = t.options) :
    r.configured (some (edit (table.getD .blank))) = r.configured table := by
  cases table with
  | none =>
    change { r with check := r.check.configure (edit .blank) } = r
    rw [Check.configure_of_options_eq (h .blank), Check.configure_blank]
  | some t =>
    change { r with check := r.check.configure (edit t) } = r.configure t
    rw [Check.configure_of_options_eq (h t)]
    rfl

end Rule

namespace Analyzer

theorem analyzeFile_build (rules : List Rule) (config : Config) (m : Manifest) :
    (build rules config).analyzeFile m =
      rules.flatMap fun r ↦ r.report (config.table? r.name) m := by
  simp only [analyzeFile, build, List.flatMap_map]
  apply List.flatMap_congr
  intro r _
  change runRule config m (r.configured (config.table? r.name)) = _
  rw [Rule.runRule_eq, Rule.name_configured]
  rfl

theorem filter_analyzeFile (p : String → Bool) (rules : List Rule) (config : Config)
    (m : Manifest) :
    ((build rules config).analyzeFile m).filter (fun f ↦ p f.rule) =
      rules.flatMap fun r ↦ if p r.name then r.report (config.table? r.name) m else [] := by
  simp only [analyzeFile_build, List.filter_flatMap, Rule.filter_report]

theorem byRule_analyze (rules : List Rule) (config : Config) (ms : List Manifest)
    (name : String) :
    ((build rules config).analyze ms).byRule name = ms.flatMap fun m ↦
      rules.flatMap fun r ↦ if r.name == name then r.report (config.table? name) m else [] := by
  simp only [Report.byRule, analyze, List.filter_flatMap]
  apply List.flatMap_congr
  intro m _
  rw [filter_analyzeFile (· == name)]
  apply List.flatMap_congr
  intro r _
  split
  next hr => rw [beq_iff_eq.mp hr]
  next => rfl

end Analyzer

namespace Config

/-- Edits the table of one rule. A rule without a table gets one first that says nothing. -/
def adjust (c : Config) (rule : String) (edit : RuleTable → RuleTable) : Config :=
  { c with rules := (rule, edit ((c.table? rule).getD .blank)) ::
      c.rules.filter (·.1 != rule) }

theorem table?_adjust_self (c : Config) (rule : String) (edit : RuleTable → RuleTable) :
    (c.adjust rule edit).table? rule =
      some (edit ((c.table? rule).getD .blank)) := by
  simp only [table?, adjust, List.lookup_cons_self]

theorem lookup_filter_ne {rule other : String} (h : other ≠ rule)
    (tables : List (String × RuleTable)) :
    (tables.filter (·.1 != rule)).lookup other = tables.lookup other := by
  induction tables with
  | nil => rfl
  | cons entry tables ih =>
    by_cases hr : entry.1 = rule
    · have hne : (other == entry.1) = false := by simpa [hr] using h
      rw [List.filter_cons_of_neg (by simp [hr]), ih, List.lookup_cons, hne]
    · rw [List.filter_cons_of_pos (by simp [hr]), List.lookup_cons, List.lookup_cons, ih]

theorem table?_adjust_of_ne (c : Config) {rule other : String} (h : other ≠ rule)
    (edit : RuleTable → RuleTable) : (c.adjust rule edit).table? other = c.table? other := by
  have hne : (other == rule) = false := by simpa using h
  simp only [table?, adjust, List.lookup_cons, hne, lookup_filter_ne h]

end Config

namespace Rule

variable (r : Rule) (table : Option RuleTable) (m : Manifest)

theorem report_disabled :
    r.report (some { table.getD .blank with enabled := some false }) m = [] := rfl

theorem report_severity (s : Severity) :
    r.report (some { table.getD .blank with severity := some s }) m =
      (r.report table m).map fun f ↦ { f with severity := s } := by
  have hconf : r.configured (some { table.getD .blank with severity := some s }) =
      r.configured table :=
    r.configured_edit table (fun t ↦ { t with severity := some s }) fun _ ↦ rfl
  have henabled : ((table.getD .blank).enabled).getD true =
      (table.bind (·.enabled)).getD true := by
    cases table <;> rfl
  unfold report
  rw [hconf]
  simp only [Option.bind_some, henabled]
  split
  · rw [List.map_map]
    rfl
  · rfl

end Rule

namespace Analyzer

variable (rules : List Rule) (name : String)

theorem report_adjust (c : Config) (edit : RuleTable → RuleTable) (m : Manifest) (r : Rule) :
    r.report ((c.adjust name edit).table? r.name) m =
      if r.name = name then r.report (some (edit ((c.table? r.name).getD .blank))) m
      else r.report (c.table? r.name) m := by
  split
  next hr => rw [hr, Config.table?_adjust_self]
  next hr => rw [Config.table?_adjust_of_ne c hr]

theorem analyzeFile_disabled (c : Config) (m : Manifest) :
    (build rules (c.adjust name fun t ↦ { t with enabled := some false })).analyzeFile m =
      ((build rules c).analyzeFile m).filter (·.rule != name) := by
  rw [filter_analyzeFile (· != name), analyzeFile_build]
  apply List.flatMap_congr
  intro r _
  rw [report_adjust]
  by_cases hr : r.name = name
  · simp [hr, Rule.report_disabled]
  · simp [hr]

theorem analyzeFile_severity (c : Config) (s : Severity) (m : Manifest) :
    (build rules (c.adjust name fun t ↦ { t with severity := some s })).analyzeFile m =
      ((build rules c).analyzeFile m).map fun f ↦
        if f.rule == name then { f with severity := s } else f := by
  rw [analyzeFile_build, analyzeFile_build, List.map_flatMap]
  apply List.flatMap_congr
  intro r _
  rw [report_adjust, Rule.report_severity]
  split
  next hr =>
    apply List.map_congr_left
    intro f hf
    simp [Rule.rule_of_mem_report hf, hr]
  next hr =>
    rw [← List.map_id (r.report (c.table? r.name) m), List.map_map]
    apply List.map_congr_left
    intro f hf
    simp [Rule.rule_of_mem_report hf, hr]

/-- Tables do not interfere. The findings under a name depend on the table of that name alone.
Turning it off removes these findings, a severity in it is the severity of these findings, and
neither touches the rest of the report. -/
theorem analyze_tables (rules : List Rule) (ms : List Manifest) (name : String) :
    (∀ c c' : Config, c.table? name = c'.table? name →
      ((build rules c).analyze ms).byRule name = ((build rules c').analyze ms).byRule name) ∧
    (∀ c : Config,
      (build rules (c.adjust name fun t ↦ { t with enabled := some false })).analyze ms =
        { (build rules c).analyze ms with
          findings := ((build rules c).analyze ms).findings.filter (·.rule != name) }) ∧
    ∀ (c : Config) (s : Severity),
      (build rules (c.adjust name fun t ↦ { t with severity := some s })).analyze ms =
        { (build rules c).analyze ms with
          findings := ((build rules c).analyze ms).findings.map fun f ↦
            if f.rule == name then { f with severity := s } else f } := by
  refine ⟨fun c c' h ↦ ?_, fun c ↦ ?_, fun c s ↦ ?_⟩
  · rw [byRule_analyze, byRule_analyze, h]
  · simp only [analyze, List.filter_flatMap]
    congr 1
    exact List.flatMap_congr fun m _ ↦ analyzeFile_disabled rules name c m
  · simp only [analyze, List.map_flatMap]
    congr 1
    exact List.flatMap_congr fun m _ ↦ analyzeFile_severity rules name c s m

/-- A table that turns one rule off and one that only has an option, seen from a third rule. -/
theorem analyze_tables_edge :
    let c : Config := ⟨none, none, [("variable-scope", ⟨some false, none, []⟩),
      ("autoloader-layout", ⟨none, none, [("extension", .string "epp")]⟩)]⟩
    let ms : List Manifest := [⟨"a.pp", Stream.ofKinds [.outEdge]⟩]
    let name := "right-to-left-relationship"
    c.table? name = Config.empty.table? name ∧
      (((build Rule.all c).analyze ms).byRule name).length = 1 ∧
      ((build Rule.all c).analyze ms).byRule name =
        ((build Rule.all .empty).analyze ms).byRule name := by
  intro c ms name
  have h : c.table? name = Config.empty.table? name := by rfl
  exact ⟨h, by decide, (analyze_tables Rule.all ms name).1 c .empty h⟩

end Analyzer

end ManifestLint
