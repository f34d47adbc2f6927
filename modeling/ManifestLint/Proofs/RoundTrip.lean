import ManifestLint.Command
import ManifestLint.Manifest
import ManifestLint.Proofs.JsonReading

namespace ManifestLint

open Json

theorem Token.accepts_json (t : Token) : Accepts (readRecord shape) t.json t := by
  have hkind : Accepts readKind (.text t.kind.label) t.kind :=
    accepts_readName (by rw [Kind.ofLabel_label])
  refine accepts_readRecord ⟨t.kind, t.text, t.line, t.column⟩ ?_ rfl
  exact .cons rfl rfl (accepts_field hkind _) <|
    .cons rfl rfl (accepts_field (accepts_readText _ t.text) _) <|
    .cons rfl rfl (accepts_field (accepts_readWord t.line) _) <|
    .cons rfl rfl (accepts_field (accepts_readWord t.column) _) <| .nil _

theorem Manifest.accepts_json (m : Manifest) : Accepts (readRecord shape) m.json m := by
  have htokens := accepts_readList_map Token.accepts_json m.tokens
  refine accepts_readRecord ⟨m.path, m.tokens⟩ ?_ rfl
  exact .cons rfl rfl (accepts_field (accepts_readText _ m.path) _) <|
    .cons rfl rfl (accepts_field htokens _) <| .nil _

/-- Reading the dump of a manifest gives the manifest back. -/
theorem Manifest.ofDump_dump (m : Manifest) : ofDump m.dump = .ok m := by
  have h := parse_of_accepts m.accepts_json (written_write m.json) .nil
  rwa [List.append_nil] at h

theorem Severity.accepts_label (s : Severity) : Accepts readSeverity (.text s.label) s :=
  accepts_readName (by rw [ofLabel?_label])

theorem Location.accepts_json (l : Location) : Accepts (readRecord shape) l.json l := by
  refine accepts_readRecord ⟨l.file, l.line, l.column⟩ ?_ rfl
  exact .cons rfl rfl (accepts_field (accepts_readText _ l.file) _) <|
    .cons rfl rfl (accepts_field (accepts_readWord l.line) _) <|
    .cons rfl rfl (accepts_field (accepts_readWord l.column) _) <| .nil _

namespace Finding

theorem accepts_suggestionJson (message : String) :
    Accepts (readOptional (readRecord suggestionShape)) (suggestionJson message).2
      (some message) := by
  refine accepts_readOptional (accepts_readRecord (some message) ?_ rfl)
  exact .cons rfl rfl (accepts_field (accepts_readText _ message) _) <| .nil _

theorem fills_suggestion (f : Finding) :
    Fills shape.fields ⟨f.code, f.rule, f.severity, f.location, f.message, none⟩
      (f.suggestion.toList.map suggestionJson)
      ⟨f.code, f.rule, f.severity, f.location, f.message, f.suggestion.map some⟩ := by
  cases f.suggestion with
  | none => exact .nil _
  | some message =>
    exact .cons rfl rfl (accepts_field (accepts_suggestionJson message) _) <| .nil _

theorem accepts_json (f : Finding) : Accepts (readRecord shape) f.json f := by
  refine accepts_readRecord
    ⟨f.code, f.rule, f.severity, f.location, f.message, f.suggestion.map some⟩ ?_ ?_
  · exact .cons rfl rfl (accepts_field (accepts_readText _ f.code) _) <|
      .cons rfl rfl (accepts_field (accepts_readText _ f.rule) _) <|
      .cons rfl rfl (accepts_field f.severity.accepts_label _) <|
      .cons rfl rfl (accepts_field f.location.accepts_json _) <|
      .cons rfl rfl (accepts_field (accepts_readText _ f.message) _) f.fills_suggestion
  · obtain ⟨code, rule, severity, location, message, suggestion⟩ := f
    cases suggestion <;> rfl

end Finding

namespace Report

theorem accepts_json (r : Report) : Accepts (readRecord shape) r.json r := by
  have hfindings := accepts_readList_map Finding.accepts_json r.findings
  refine accepts_readRecord ⟨r.findings, r.filesChecked⟩ ?_ rfl
  exact .cons rfl rfl (accepts_field hfindings _) <|
    .cons rfl rfl (accepts_field (accepts_readWord r.filesChecked) _) <| .nil _

/-- Reading a saved report gives the report back, be it on one line, with one member a line, or as
it is printed. -/
theorem ofSaved_saved (r : Report) :
    ofSaved r.save = .ok r ∧ ofSaved r.savePretty = .ok r ∧
      ofSaved (Command.Format.json.render r) = .ok r := by
  have hread {cs tail : List Char} (hcs : Written r.json cs) (htail : Blanks tail) :
      ofSaved (String.ofList (cs ++ tail)) = .ok r := parse_of_accepts r.accepts_json hcs htail
  have hpretty := written_writePretty 0 r.json
  refine ⟨?_, ?_, ?_⟩
  · have h := hread (written_write r.json) .nil
    rwa [List.append_nil] at h
  · have h := hread hpretty .nil
    rwa [List.append_nil] at h
  · have hbreak : Blanks ['\n'] := by simp [Blanks, isBlank]
    have h := hread hpretty hbreak
    rwa [String.ofList_append] at h

end Report

end ManifestLint
