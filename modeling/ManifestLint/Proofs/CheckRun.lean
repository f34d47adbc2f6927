import ManifestLint.Command
import ManifestLint.Proofs.RuleTables
import Mathlib.Data.List.Forall2

namespace ManifestLint

open Command

section Files

variable {disk : Disk} {path : String}

def Config.WrittenAt (disk : Disk) (path : String) (config : Config) : Prop :=
  ∃ text, disk path = .file (some text) ∧ Config.parse text = some config

def Manifest.DumpedAt (disk : Disk) (path : String) (m : Manifest) : Prop :=
  ∃ text, disk path = .file (some text) ∧ Manifest.ofDump text = .ok m

theorem Disk.Entry.read_eq_ok_iff {entry : Disk.Entry} {text : String} :
    entry.read = .ok text ↔ entry = .file (some text) := by
  unfold Disk.Entry.read
  split <;> simp

theorem Config.load_eq_ok_iff {config : Config} :
    Config.load disk path = .ok config ↔ config.WrittenAt disk path := by
  unfold Config.load WrittenAt
  simp only [← Disk.Entry.read_eq_ok_iff]
  cases (disk path).read with
  | error cause => simp
  | ok text => cases hparse : Config.parse text <;> simp [hparse]

theorem Manifest.load_eq_ok_iff {m : Manifest} :
    Manifest.load disk path = .ok m ↔ m.DumpedAt disk path := by
  unfold Manifest.load DumpedAt
  simp only [← Disk.Entry.read_eq_ok_iff]
  cases (disk path).read with
  | error cause => simp
  | ok text => cases hdump : Manifest.ofDump text <;> simp [hdump]

end Files

namespace Command

/-- The path of the configuration of a run: the one that is asked for, or else the first of the
usual paths at which a file lies. -/
def Invocation.place (around : Surroundings) (i : Invocation) : Option String :=
  i.config.orElse fun _ ↦
    (Config.Origin.projectPaths ++
      (Config.Origin.sharedPath around.configDirectory around.home).toList).find?
      fun path ↦ (around.disk path).isFile

theorem path?_origin (around : Surroundings) (i : Invocation) :
    (i.origin around).path? = i.place around := by
  unfold Invocation.origin Invocation.place Config.Origin.find
  cases i.config with
  | some path => rfl
  | none =>
    rw [Option.orElse_none, List.find?_append]
    cases Config.Origin.projectPaths.find? fun path ↦ (around.disk path).isFile with
    | some path => rfl
    | none =>
      cases Config.Origin.sharedPath around.configDirectory around.home with
      | none => rfl
      | some path =>
        by_cases hfile : (around.disk path).isFile
        · simp [hfile, Option.filter, Config.Origin.path?]
        · simp [hfile, Option.filter, Config.Origin.path?]

def Configures (disk : Disk) : Option String → Config → Prop
  | none, config => config = .empty
  | some path, config => config.WrittenAt disk path

structure Loads (disk : Disk) (place : Option String) (dumps : List String) (config : Config)
    (ms : List Manifest) : Prop where
  config : Configures disk place config
  manifests : List.Forall₂ (fun path m ↦ m.DumpedAt disk path) dumps ms

/-- The message for the first thing that does not load: the configuration, or else the first such
dump. -/
inductive Misses (disk : Disk) (place : Option String) (dumps : List String) : String → Prop
  | config {path : String} (hplace : place = some path)
      (hnone : ∀ config : Config, ¬ config.WrittenAt disk path) :
      Misses disk place dumps s!"Failed to load config: {path}"
  | dump {config : Config} {before : List String} {path : String} {after : List String}
      (hconfig : Configures disk place config) (hdumps : dumps = before ++ path :: after)
      (hbefore : ∀ p ∈ before, ∃ m : Manifest, m.DumpedAt disk p)
      (hnone : ∀ m : Manifest, ¬ m.DumpedAt disk path) :
      Misses disk place dumps s!"Failed to load dump: {path}"

section Loading

variable {disk : Disk} {origin : Config.Origin} {dumps : List String} {config : Config}
  {ms : List Manifest} {failure : Failure}

theorem loadConfig_eq_ok_iff :
    loadConfig disk origin = .ok config ↔ Configures disk origin.path? config := by
  unfold loadConfig
  cases origin.path? with
  | none => simp [Configures, eq_comm]
  | some path =>
    rw [Configures, ← Config.load_eq_ok_iff]
    cases hload : Config.load disk path <;> simp [hload, Except.mapError]

theorem misses_of_loadConfig_eq_error (h : loadConfig disk origin = .error failure) :
    Misses disk origin.path? dumps failure.message := by
  unfold loadConfig at h
  cases hplace : origin.path? with
  | none => simp [hplace] at h
  | some path =>
    rw [hplace] at h
    cases hload : Config.load disk path with
    | ok config => simp [hload, Except.mapError] at h
    | error cause =>
      simp only [hload, Except.mapError, Except.error.injEq] at h
      subst h
      refine .config rfl fun config hconfig ↦ ?_
      rw [← Config.load_eq_ok_iff, hload] at hconfig
      cases hconfig

theorem loadDumps_eq_ok_iff : loadDumps disk dumps = .ok ms ↔
    List.Forall₂ (fun path m ↦ m.DumpedAt disk path) dumps ms := by
  induction dumps generalizing ms with
  | nil => simp [loadDumps, eq_comm]
  | cons path dumps ih =>
    rw [loadDumps, List.forall₂_cons_left_iff]
    simp only [← ih]
    simp only [← Manifest.load_eq_ok_iff]
    cases hload : Manifest.load disk path with
    | error cause => simp
    | ok m =>
      cases hrest : loadDumps disk dumps with
      | error failure => simp [Except.map]
      | ok rest => simp [Except.map, eq_comm]

theorem exists_of_loadDumps_eq_error (h : loadDumps disk dumps = .error failure) :
    ∃ before path after, dumps = before ++ path :: after ∧
      (∀ p ∈ before, ∃ m : Manifest, m.DumpedAt disk p) ∧
      (∀ m : Manifest, ¬ m.DumpedAt disk path) ∧ ∃ cause, failure = .dump path cause := by
  induction dumps with
  | nil => cases h
  | cons path dumps ih =>
    rw [loadDumps] at h
    cases hload : Manifest.load disk path with
    | error cause =>
      simp only [hload, Except.error.injEq] at h
      refine ⟨[], path, dumps, rfl, by simp, fun m hm ↦ ?_, cause, h.symm⟩
      rw [← Manifest.load_eq_ok_iff, hload] at hm
      cases hm
    | ok m =>
      cases hrest : loadDumps disk dumps with
      | ok ms => simp [hload, hrest, Except.map] at h
      | error failure' =>
        simp only [hload, hrest, Except.map, Except.error.injEq] at h
        subst h
        obtain ⟨before, p, after, rfl, hbefore, hnone, hcause⟩ := ih hrest
        refine ⟨path :: before, p, after, rfl, ?_, hnone, hcause⟩
        rintro q (_ | ⟨_, hq⟩)
        · exact ⟨m, Manifest.load_eq_ok_iff.mp hload⟩
        · exact hbefore q hq

theorem load_eq_ok_iff :
    load disk origin dumps = .ok (config, ms) ↔ Loads disk origin.path? dumps config ms := by
  have hloads : Loads disk origin.path? dumps config ms ↔
      loadConfig disk origin = .ok config ∧ loadDumps disk dumps = .ok ms := by
    rw [loadConfig_eq_ok_iff, loadDumps_eq_ok_iff]
    exact ⟨fun h ↦ ⟨h.config, h.manifests⟩, fun h ↦ ⟨h.1, h.2⟩⟩
  rw [hloads, load]
  cases loadConfig disk origin with
  | error failure => simp
  | ok config' => cases loadDumps disk dumps <;> simp [Except.map]

theorem misses_of_load_eq_error (h : load disk origin dumps = .error failure) :
    Misses disk origin.path? dumps failure.message := by
  rw [load] at h
  cases hconfig : loadConfig disk origin with
  | error failure' =>
    simp only [hconfig, Except.error.injEq] at h
    subst h
    exact misses_of_loadConfig_eq_error hconfig
  | ok config =>
    cases hdumps : loadDumps disk dumps with
    | ok ms => simp [hconfig, hdumps, Except.map] at h
    | error failure' =>
      simp only [hconfig, hdumps, Except.map, Except.error.injEq] at h
      subst h
      obtain ⟨before, path, after, hsplit, hbefore, hnone, cause, rfl⟩ :=
        exists_of_loadDumps_eq_error hdumps
      exact .dump (loadConfig_eq_ok_iff.mp hconfig) hsplit hbefore hnone

theorem Loads.unique {place : Option String} {config' : Config} {ms' : List Manifest}
    (h : Loads disk place dumps config ms) (h' : Loads disk place dumps config' ms') :
    config = config' ∧ ms = ms' := by
  obtain ⟨origin, rfl⟩ : ∃ origin : Config.Origin, origin.path? = place := by
    cases place with
    | none => exact ⟨.nowhere, rfl⟩
    | some path => exact ⟨.asked path, rfl⟩
  have hload := (load_eq_ok_iff.mpr h).symm.trans (load_eq_ok_iff.mpr h')
  rwa [Except.ok.injEq, Prod.mk.injEq] at hload

theorem Misses.eq_of_dump {place : Option String} {before after : List String}
    {path message : String} (h : Misses disk place (before ++ path :: after) message)
    (hconfig : Configures disk place config)
    (hbefore : ∀ p ∈ before, ∃ m : Manifest, m.DumpedAt disk p)
    (hnone : ∀ m : Manifest, ¬ m.DumpedAt disk path) :
    message = s!"Failed to load dump: {path}" := by
  cases h with
  | config hplace hunwritten =>
    subst hplace
    exact absurd hconfig (hunwritten config)
  | @dump _ before' path' after' _ hdumps hbefore' hnone' =>
    rcases List.append_eq_append_iff.mp hdumps with ⟨l, hl, hrest⟩ | ⟨l, hl, hrest⟩
    · cases l with
      | nil =>
        cases hrest
        rfl
      | cons p l =>
        obtain ⟨rfl, -⟩ := List.cons.inj hrest
        obtain ⟨m, hm⟩ := hbefore' path (by simp [hl])
        exact absurd hm (hnone m)
    · cases l with
      | nil =>
        cases hrest
        rfl
      | cons p l =>
        obtain ⟨rfl, -⟩ := List.cons.inj hrest
        obtain ⟨m, hm⟩ := hbefore path' (by simp [hl])
        exact absurd hm (hnone' m)

end Loading

end Command

/-- A rule that is not turned off finds something in the manifest, and the severity that the
configuration leaves or gives to it reaches the threshold. -/
def Config.Fails (config : Config) (rules : List Rule) (m : Manifest) : Prop :=
  ∃ r ∈ rules, config.isEnabled r.name = true ∧
    ∃ f ∈ (r.configured (config.table? r.name)).findings m,
      ((config.severity? r.name).getD f.severity).atLeast (config.failOn.getD .error) = true

instance (config : Config) (rules : List Rule) (m : Manifest) : Decidable (config.Fails rules m) :=
  inferInstanceAs (Decidable (∃ r ∈ rules, _ ∧ ∃ f ∈ _, _))

theorem Analyzer.hasAt_analyze (rules : List Rule) (config : Config) (ms : List Manifest) :
    ((build rules config).analyze ms).hasAt config.threshold = true ↔
      ∃ m ∈ ms, config.Fails rules m := by
  have hreport (r : Rule) (m : Manifest) :
      (∃ f ∈ r.report (config.table? r.name) m, f.severity.atLeast config.threshold = true) ↔
        config.isEnabled r.name = true ∧
          ∃ f ∈ (r.configured (config.table? r.name)).findings m,
            ((config.severity? r.name).getD f.severity).atLeast (config.failOn.getD .error) =
              true := by
    unfold Rule.report
    change (∃ f ∈ if config.isEnabled r.name = true then _ else [], _) ↔ _
    split
    next hon =>
      simp only [List.mem_map, exists_exists_and_eq_and, hon, true_and]
      rfl
    next hoff => simp [hoff]
  simp only [Report.hasAt, analyze, analyzeFile_build, List.any_flatMap, List.any_eq_true]
  simp only [hreport, Config.Fails]

namespace Command

def Asks (around : Surroundings) (args : List String) (place : Option String)
    (dumps : List String) (format : Format) (rules : Option String) : Prop :=
  ∃ i, Invocation.ofArguments args = .ok i ∧ i.action = .check dumps format rules ∧
    i.place around = place

variable {around : Surroundings} {args : List String} {place : Option String}
  {dumps : List String} {format : Format} {rules : Option String}

/-- A run that is asked for a check comes to what the check comes to, but may tell less of it. -/
theorem Asks.exists_check (h : Asks around args place dumps format rules) :
    ∃ origin : Config.Origin, origin.path? = place ∧
      (run around args).status = (check around.disk origin dumps format rules).status ∧
      (run around args).output = (check around.disk origin dumps format rules).output ∧
      (run around args).failure = (check around.disk origin dumps format rules).failure := by
  obtain ⟨i, hargs, haction, hplace⟩ := h
  have hperform : i.perform around =
      check around.disk (i.origin around) dumps format rules := by
    rw [Invocation.perform, haction]
  have hrun : run around args =
      if i.verbose then i.perform around else (i.perform around).quiet := by
    rw [run, hargs]
  refine ⟨i.origin around, (path?_origin around i).trans hplace, ?_⟩
  rw [hrun, hperform]
  split <;> exact ⟨rfl, rfl, rfl⟩

theorem check_status_eq_zero_iff {disk : Disk} {origin : Config.Origin} {config : Config}
    {ms : List Manifest} (h : load disk origin dumps = .ok (config, ms)) :
    (check disk origin dumps format rules).status = 0 ↔
      ∀ m ∈ ms, ¬ config.Fails (chosenRules rules) m := by
  have hfails := Analyzer.hasAt_analyze (chosenRules rules) config ms
  simp only [check, h, ite_eq_right_iff]
  constructor
  · intro hzero m hm hfail
    exact absurd (hzero (hfails.mpr ⟨m, hm, hfail⟩)) (by decide)
  · intro hclean hat
    obtain ⟨m, hm, hfail⟩ := hfails.mp hat
    exact absurd hfail (hclean m hm)

/-- How a check ends. Its status is 0 if configuration and dumps load and no finding that is left
reaches the threshold, and else it is 1. If something does not load, nothing is printed and the
error names the first such thing. -/
theorem run_check (h : Asks around args place dumps format rules) :
    let o := run around args
    let Loaded := Loads around.disk place dumps
    (o.status = 0 ↔
      ∃ config ms, Loaded config ms ∧ ∀ m ∈ ms, ¬ config.Fails (chosenRules rules) m) ∧
    (o.status ≠ 0 → o.status = 1) ∧
    (∀ config ms, Loaded config ms → o.failure = none ∧
      o.output = format.render ((Analyzer.build (chosenRules rules) config).analyze ms)) ∧
    ((¬ ∃ config ms, Loaded config ms) → o.output = "" ∧
      ∃ failure, o.failure = some failure ∧
        Misses around.disk place dumps failure.message) := by
  intro o Loaded
  obtain ⟨origin, rfl, hstatus, houtput, hfailure⟩ := h.exists_check
  have hloaded (config : Config) (ms : List Manifest) :
      Loaded config ms ↔ load around.disk origin dumps = .ok (config, ms) := load_eq_ok_iff.symm
  simp only [o, hstatus, houtput, hfailure, hloaded]
  cases hload : load around.disk origin dumps with
  | error failure => simp [check, hload, Outcome.failed, misses_of_load_eq_error hload]
  | ok loaded =>
    obtain ⟨config, ms⟩ := loaded
    simp only [Except.ok.injEq, Prod.mk.injEq]
    refine ⟨?_, ?_, ?_, fun hnot ↦ absurd ⟨config, ms, rfl, rfl⟩ hnot⟩
    · rw [check_status_eq_zero_iff hload]
      constructor
      · intro hclean
        exact ⟨config, ms, ⟨rfl, rfl⟩, hclean⟩
      · rintro ⟨_, _, ⟨rfl, rfl⟩, hclean⟩
        exact hclean
    · simp only [check, hload]
      split <;> simp
    · rintro _ _ ⟨rfl, rfl⟩
      simp only [check, hload, and_self]

/-- One dump with a warning under four configurations: none, one that makes an error of the warning,
one that fails on warnings, and one that does so too but turns the rule off. Then a run in which the
first dump loads and the second one is missing. -/
theorem run_check_thresholds :
    let edge : Manifest := ⟨"", [⟨.outEdge, "<-", 1, 6⟩]⟩
    let strict := "[rules.right-to-left-relationship]\nseverity = \"error\"\n"
    let low := "fail_on = \"warning\"\n"
    let off := "fail_on = \"warning\"\n[rules.right-to-left-relationship]\nenabled = false\n"
    let files : List (String × String) :=
      [("a.json", edge.dump), ("strict.toml", strict), ("low.toml", low), ("off.toml", off)]
    let around : Surroundings := ⟨none, none, fun path ↦
      ((files.lookup path).map fun text ↦ .file (some text)).getD .missing⟩
    let args (place : Option String) := (place.map ("-c" ++ ·)).toList ++ ["check", "a.json"]
    let missing := ["check", "a.json", "b.json"]
    (∀ p ∈ [(none, 0), (some "strict.toml", 1), (some "low.toml", 1), (some "off.toml", 0)],
      Asks around (args p.1) p.1 ["a.json"] .text none ∧ (run around (args p.1)).status = p.2) ∧
    Asks around missing none ["a.json", "b.json"] .text none ∧
      (run around missing).status = 1 ∧ (run around missing).output = "" ∧
      ∃ failure, (run around missing).failure = some failure ∧
        failure.message = "Failed to load dump: b.json" := by
  intro edge strict low off files around args missing
  have hedge : edge.DumpedAt around.disk "a.json" := by
    refine ⟨edge.dump, by rfl, ?_⟩
    rw [Manifest.ofDump, Json.parse, Manifest.dump, String.toList_ofList]
    decide +kernel
  let status (config : Config) : UInt32 := if config.Fails (chosenRules none) edge then 1 else 0
  have hstatus {place : Option String} {config : Config}
      (hconfig : Configures around.disk place config)
      (hasks : Asks around (args place) place ["a.json"] .text none) :
      (run around (args place)).status = status config := by
    have hloads : Loads around.disk place ["a.json"] config [edge] := ⟨hconfig, .cons hedge .nil⟩
    obtain ⟨hzero, hone, -⟩ := run_check hasks
    simp only [status]
    split
    next hfails =>
      refine hone fun hclean ↦ ?_
      obtain ⟨config', ms, hloads', hclean⟩ := hzero.mp hclean
      obtain ⟨rfl, rfl⟩ := hloads.unique hloads'
      exact hclean edge List.mem_cons_self hfails
    next hclean => exact hzero.mpr ⟨config, [edge], hloads, List.forall_mem_singleton.mpr hclean⟩
  have hplaces : ∀ p ∈ [(none, 0), (some "strict.toml", 1), (some "low.toml", 1),
      (some "off.toml", 0)], Asks around (args p.1) p.1 ["a.json"] .text none ∧
        ∃ config, Configures around.disk p.1 config ∧ status config = p.2 := by
    have hwritten {path text : String} (hfile : around.disk path = .file (some text)) (n : UInt32)
        (h : ∃ config ∈ Config.parse text, status config = n) :
        ∃ config, Configures around.disk (some path) config ∧ status config = n := by
      obtain ⟨config, hparse, hn⟩ := h
      exact ⟨config, ⟨text, hfile, hparse⟩, hn⟩
    have hasks (place : Option String)
        (h : place ∈ [none, some "strict.toml", some "low.toml", some "off.toml"]) :
        Asks around (args place) place ["a.json"] .text none := by
      refine ⟨⟨false, place, .check ["a.json"] .text none⟩, ?_, rfl, ?_⟩ <;>
        (revert place; decide +kernel)
    simp only [List.forall_mem_cons]
    refine ⟨⟨hasks _ (by simp), .empty, rfl, by decide +kernel⟩,
      ⟨hasks _ (by simp), hwritten rfl 1 (by decide +kernel)⟩,
      ⟨hasks _ (by simp), hwritten rfl 1 (by decide +kernel)⟩,
      ⟨hasks _ (by simp), hwritten rfl 0 (by decide +kernel)⟩, by simp⟩
  refine ⟨fun p hp ↦ ?_, ?_⟩
  · obtain ⟨hasks, config, hconfig, hp⟩ := hplaces p hp
    exact ⟨hasks, (hstatus hconfig hasks).trans hp⟩
  have hasks : Asks around missing none ["a.json", "b.json"] .text none :=
    ⟨⟨false, none, .check ["a.json", "b.json"] .text none⟩, by rfl, rfl, by rfl⟩
  have hnone (m : Manifest) : ¬ m.DumpedAt around.disk "b.json" := by
    rintro ⟨text, hfile, _⟩
    cases hfile
  have hnot : ¬ ∃ config ms, Loads around.disk none ["a.json", "b.json"] config ms := by
    rintro ⟨config, ms, _, _ | ⟨_, _ | ⟨hm, _⟩⟩⟩
    exact hnone _ hm
  obtain ⟨hzero, hone, -, hfail⟩ := run_check hasks
  obtain ⟨houtput, failure, hfailure, hmisses⟩ := hfail hnot
  refine ⟨hasks, hone fun h ↦ ?_, houtput, failure, hfailure, ?_⟩
  · obtain ⟨config, ms, hloads, _⟩ := hzero.mp h
    exact hnot ⟨config, ms, hloads⟩
  · have hmisses : Misses around.disk none (["a.json"] ++ "b.json" :: []) failure.message := hmisses
    exact hmisses.eq_of_dump rfl (List.forall_mem_singleton.mpr ⟨edge, hedge⟩) hnone

end Command

end ManifestLint
