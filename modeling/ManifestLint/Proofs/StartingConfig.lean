import ManifestLint.Proofs.CheckRun

namespace ManifestLint

open Command

/-- The configuration says nothing but what holds without one: the threshold is that of the empty
configuration, and every rule is on, keeps its severity and keeps its options. -/
def Config.Neutral (config : Config) : Prop :=
  config.threshold = Config.empty.threshold ∧
    ∀ r ∈ Rule.all, config.isEnabled r.name = true ∧ config.severity? r.name = none ∧
      r.configured (config.table? r.name) = r

instance (config : Config) : Decidable config.Neutral :=
  inferInstanceAs (Decidable (_ ∧ ∀ r ∈ Rule.all, _ ∧ _))

section Neutral

variable {config : Config}

theorem Config.Neutral.report_eq (h : config.Neutral) {r : Rule} (hr : r ∈ Rule.all)
    (m : Manifest) : r.report (config.table? r.name) m = r.report none m := by
  obtain ⟨hon, hseverity, hconfigured⟩ := h.2 r hr
  change (if config.isEnabled r.name = true then
    ((r.configured (config.table? r.name)).findings m).map
      (Analyzer.override (config.severity? r.name)) else []) = _
  rw [if_pos hon, hseverity, hconfigured]
  rfl

theorem Command.mem_all_of_mem_chosenRules {rules : Option String} {r : Rule}
    (hr : r ∈ chosenRules rules) : r ∈ Rule.all := by
  cases rules with
  | none => exact hr
  | some text =>
    obtain ⟨key, _, hfind⟩ := List.mem_filterMap.mp hr
    exact List.mem_of_find?_eq_some hfind

theorem Config.Neutral.analyze_eq (h : config.Neutral) (rules : Option String)
    (ms : List Manifest) :
    (Analyzer.build (chosenRules rules) config).analyze ms =
      (Analyzer.build (chosenRules rules) .empty).analyze ms := by
  unfold Analyzer.analyze
  congr 1
  apply List.flatMap_congr
  intro m _
  rw [Analyzer.analyzeFile_build, Analyzer.analyzeFile_build]
  apply List.flatMap_congr
  intro r hr
  exact h.report_eq (mem_all_of_mem_chosenRules hr) m

end Neutral

theorem Text.toList_joinLines (lines : List String) :
    (joinLines lines).toList = lines.flatMap fun line ↦ line.toList ++ ['\n'] := by
  simp [joinLines, String.toList_join, List.flatMap_map]

namespace Command

theorem parse_startingConfig : ∃ config ∈ Config.parse startingConfig, config.Neutral := by
  unfold Config.parse Toml.parse startingConfig
  rw [Text.toList_joinLines]
  simp only [List.flatMap_cons, List.flatMap_nil]
  -- the characters of the lines, so that no text has to be taken apart while the document is read
  repeat rw [String.toList_ofList]
  decide +kernel

theorem eq_startingConfig_of_init {disk : Disk} {force : Bool} {path text : String}
    (h : (init disk force).written = some (path, text)) : text = startingConfig := by
  have hcreated (h : init.created.written = some (path, text)) : text = startingConfig := by
    cases h
    rfl
  unfold init at h
  cases hentry : disk configPath with
  | missing =>
    rw [hentry] at h
    exact hcreated h
  | file content =>
    simp only [hentry] at h
    split at h
    · exact hcreated h
    · cases h
  | directory =>
    rw [hentry] at h
    cases h
  | notADirectory =>
    rw [hentry] at h
    cases h

theorem loadDumps_congr {disk bare : Disk} {dumps : List String}
    (h : ∀ dump ∈ dumps, disk dump = bare dump) : loadDumps disk dumps = loadDumps bare dumps := by
  induction dumps with
  | nil => rfl
  | cons dump dumps ih =>
    have hload : Manifest.load disk dump = Manifest.load bare dump := by
      rw [Manifest.load, Manifest.load, h dump List.mem_cons_self]
    rw [loadDumps, loadDumps, hload, ih fun d hd ↦ h d (List.mem_cons_of_mem dump hd)]

theorem check_of_neutral {disk bare : Disk} {origin origin' : Config.Origin} {config : Config}
    {dumps : List String} (hneutral : config.Neutral)
    (hconfig : loadConfig disk origin = .ok config)
    (hempty : loadConfig bare origin' = .ok .empty)
    (hdumps : loadDumps disk dumps = loadDumps bare dumps) (format : Format)
    (rules : Option String) :
    (check disk origin dumps format rules).status =
        (check bare origin' dumps format rules).status ∧
      (check disk origin dumps format rules).output =
        (check bare origin' dumps format rules).output ∧
      (check disk origin dumps format rules).failure =
        (check bare origin' dumps format rules).failure := by
  simp only [check, load, hconfig, hempty, hdumps]
  cases loadDumps bare dumps with
  | error failure => exact ⟨rfl, rfl, rfl⟩
  | ok ms =>
    simp only [Except.map, hneutral.analyze_eq, hneutral.1, and_self]

/-- The configuration that `init` writes changes nothing. A check that takes it for its
configuration finds and prints the same and has the same status as a check of the same dumps that
has no configuration. -/
theorem run_startingConfig {around bare : Surroundings} {args bareArgs : List String}
    {disk : Disk} {force : Bool} {written text path : String} {dumps : List String}
    {format : Format} {rules : Option String}
    (hinit : (init disk force).written = some (written, text))
    (h : Asks around args (some path) dumps format rules)
    (hfile : around.disk path = .file (some text))
    (hbare : Asks bare bareArgs none dumps format rules)
    (hdumps : ∀ dump ∈ dumps, around.disk dump = bare.disk dump) :
    (∃ config, Config.parse text = some config ∧ ∀ ms,
      (Analyzer.build (chosenRules rules) config).analyze ms =
        (Analyzer.build (chosenRules rules) .empty).analyze ms) ∧
    (run around args).status = (run bare bareArgs).status ∧
    (run around args).output = (run bare bareArgs).output ∧
    (run around args).failure = (run bare bareArgs).failure := by
  obtain ⟨config, hparse, hneutral⟩ := parse_startingConfig
  rw [← eq_startingConfig_of_init hinit] at hparse
  obtain ⟨origin, hplace, hstatus, houtput, hfailure⟩ := h.exists_check
  obtain ⟨origin', hnowhere, hstatus', houtput', hfailure'⟩ := hbare.exists_check
  have hconfig : loadConfig around.disk origin = .ok config := by
    rw [loadConfig_eq_ok_iff, hplace]
    exact ⟨text, hfile, hparse⟩
  have hempty : loadConfig bare.disk origin' = .ok .empty := by
    rw [loadConfig_eq_ok_iff, hnowhere]
    rfl
  refine ⟨⟨config, hparse, hneutral.analyze_eq rules⟩, ?_⟩
  rw [hstatus, houtput, hfailure, hstatus', houtput', hfailure']
  exact check_of_neutral hneutral hconfig hempty (loadDumps_congr hdumps) format rules

/-- A check right after `init`, and the check before it, of a class that lies in the wrong file and
reads a variable from nowhere. -/
theorem run_startingConfig_project :
    let m : Manifest := ⟨"b.pp", [⟨.classWord, "class", 1, 1⟩, ⟨.name, "a", 1, 7⟩,
      ⟨.leftBrace, "\x7b", 1, 9⟩, ⟨.variable, "$x", 1, 11⟩, ⟨.rightBrace, "\x7d", 1, 14⟩]⟩
    let bare : Surroundings := ⟨none, none, fun path ↦
      if path = "b.json" then .file (some m.dump) else .missing⟩
    let around : Surroundings := ⟨none, none, fun path ↦
      if path = configPath then .file (some startingConfig) else bare.disk path⟩
    let rules := some "variable-scope,PL002,bogus"
    let args := ["check", "--rules", "variable-scope,PL002,bogus", "-fcompact", "b.json"]
    (init bare.disk false).written = some (configPath, startingConfig) ∧
      Asks around args (some configPath) ["b.json"] .compact rules ∧
      Asks bare args none ["b.json"] .compact rules ∧
      (∃ config, Config.parse startingConfig = some config ∧
        (((Analyzer.build (chosenRules rules) config).analyze [m]).findings.map fun f ↦
          (f.code, f.severity, f.location.column)) =
            [("PL006", .warning, 11), ("PL002", .error, 7)]) ∧
      (run around args).status = 1 ∧
      (run around args).output =
        "b.pp:1:11: warning [PL006] top-scope variable being used without an explicit namespace\n" ++
        "b.pp:1:7: error [PL002] a not in autoload module layout\n" := by
  intro m bare around rules args
  have hinit : (init bare.disk false).written = some (configPath, startingConfig) := rfl
  let i : Invocation := ⟨false, none, .check ["b.json"] .compact rules⟩
  have hargs : Invocation.ofArguments args = .ok i := by rfl
  have h : Asks around args (some configPath) ["b.json"] .compact rules := ⟨i, hargs, rfl, by rfl⟩
  have hbare : Asks bare args none ["b.json"] .compact rules := ⟨i, hargs, rfl, by rfl⟩
  have hdumps : ∀ dump ∈ ["b.json"], around.disk dump = bare.disk dump := by
    simp [around, configPath]
  obtain ⟨⟨config, hparse, hanalyze⟩, hstatus, houtput, -⟩ :=
    run_startingConfig hinit h rfl hbare hdumps
  have hdump : m.DumpedAt bare.disk "b.json" := by
    refine ⟨m.dump, rfl, ?_⟩
    rw [Manifest.ofDump, Json.parse, Manifest.dump, String.toList_ofList]
    decide +kernel
  -- what the check before `init` comes to, as its dump is read but once
  obtain ⟨origin, hplace, hstatus', houtput', -⟩ := hbare.exists_check
  have hload : load bare.disk origin ["b.json"] = .ok (.empty, [m]) := by
    rw [load_eq_ok_iff, hplace]
    exact ⟨rfl, .cons hdump .nil⟩
  rw [hstatus, houtput, hstatus', houtput', check, hload]
  dsimp only
  refine ⟨hinit, h, hbare, ⟨config, hparse, ?_⟩, ?_, ?_⟩
  · rw [hanalyze]
    decide +kernel
  · decide +kernel
  · decide +kernel

end Command

end ManifestLint
