import ManifestLint.Command
import ManifestLint.Proofs.DeclarationHits
import ManifestLint.Proofs.RuleTables
import Mathlib.Data.List.DropRight
import Mathlib.Data.List.Forall2

namespace ManifestLint

namespace Text

theorem splitAt_eq_splitOn (separator : Char) (cs : List Char) :
    splitAt separator cs = cs.splitOn separator := by
  induction cs with
  | nil => rfl
  | cons c cs ih =>
    rw [List.splitOn, List.splitOnP_cons_eq_if_modifyHead, ← List.splitOn, ← ih, splitAt]
    by_cases hc : c = separator
    · simp [hc]
    · simp only [hc, if_false, beq_iff_eq]
      cases hs : splitAt separator cs with
      | nil => exact absurd (ih.symm.trans hs) (List.splitOn_ne_nil separator cs)
      | cons first rest => rfl

theorem notMem_of_mem_splitAt {separator : Char} {cs piece : List Char}
    (h : piece ∈ splitAt separator cs) : separator ∉ piece := by
  induction cs generalizing piece with
  | nil =>
    rw [splitAt, List.mem_singleton] at h
    simp [h]
  | cons c cs ih =>
    rw [splitAt] at h
    split at h
    · rcases List.mem_cons.mp h with rfl | h
      · simp
      · exact ih h
    next hc =>
      cases hs : splitAt separator cs with
      | nil =>
        simp only [hs, List.mem_singleton] at h
        simpa [h] using Ne.symm hc
      | cons first rest =>
        simp only [hs, List.mem_cons] at h ih
        rcases h with rfl | h
        · simp [Ne.symm hc, ih (.inl rfl)]
        · exact ih (.inr h)

structure Trims (cs key : List Char) : Prop where
  blanks : ∃ before after, cs = before ++ key ++ after ∧
    (∀ c ∈ before, isBlank c = true) ∧ ∀ c ∈ after, isBlank c = true
  first : ∀ c ∈ key.head?, isBlank c = false
  last : ∀ c ∈ key.getLast?, isBlank c = false

theorem dropWhile_of_head? {p : Char → Bool} {l : List Char} (h : ∀ c ∈ l.head?, p c = false) :
    l.dropWhile p = l := by
  cases l with
  | nil => rfl
  | cons c l => rw [List.dropWhile_cons_of_neg (by simp [h c rfl])]

theorem not_of_mem_head?_dropWhile {p : Char → Bool} {l : List Char} {c : Char}
    (h : c ∈ (l.dropWhile p).head?) : p c = false := by
  have hnot := List.head?_dropWhile_not p l
  rwa [Option.mem_def.mp h] at hnot

theorem trim_of_trims {cs key : List Char} (h : Trims cs key) : trim cs = key := by
  obtain ⟨⟨before, after, rfl, hbefore, hafter⟩, hfirst, hlast⟩ := h
  have hafter' : ∀ c ∈ after.reverse, isBlank c = true := by simpa using hafter
  rw [trim, List.append_assoc, List.dropWhile_append_of_pos hbefore]
  cases key with
  | nil =>
    rw [List.nil_append, List.dropWhile_eq_nil_iff.mpr hafter]
    rfl
  | cons c key =>
    rw [dropWhile_of_head? (l := c :: key ++ after) hfirst, List.reverse_append,
      List.dropWhile_append_of_pos hafter', dropWhile_of_head?, List.reverse_reverse]
    rwa [List.head?_reverse]

theorem trims_trim (cs : List Char) : Trims cs (trim cs) := by
  have htrim : trim cs = (cs.dropWhile isBlank).rdropWhile isBlank := rfl
  have hprefix : trim cs <+: cs.dropWhile isBlank := List.rdropWhile_prefix isBlank _
  constructor
  · refine ⟨cs.takeWhile isBlank, (cs.dropWhile isBlank).rtakeWhile isBlank, ?_,
      fun c hc ↦ List.mem_takeWhile_imp hc, fun c hc ↦ List.mem_rtakeWhile_imp hc⟩
    rw [List.append_assoc, htrim, List.rdropWhile_append_rtakeWhile,
      List.takeWhile_append_dropWhile]
  · intro c hc
    obtain ⟨after, hafter⟩ := hprefix
    apply not_of_mem_head?_dropWhile (l := cs)
    rw [← hafter, List.head?_append, Option.mem_def.mp hc]
    rfl
  · intro c hc
    rw [trim, List.getLast?_reverse] at hc
    exact not_of_mem_head?_dropWhile hc

theorem trims_iff {cs key : List Char} : Trims cs key ↔ trim cs = key := by
  constructor
  · exact trim_of_trims
  · rintro rfl
    exact trims_trim cs

end Text

/-- The text lists the keys: commas divide it into as many pieces as there are keys, and each piece
is a key with blanks around it. -/
def Command.Lists (text : String) (keys : List String) : Prop :=
  ∃ pieces : List (List Char), pieces ≠ [] ∧ (∀ piece ∈ pieces, ',' ∉ piece) ∧
    [','].intercalate pieces = text.toList ∧
    List.Forall₂ (fun piece key ↦ Text.Trims piece key.toList) pieces keys

theorem Command.lists_iff {text : String} {keys : List String} :
    Lists text keys ↔ keys = ruleKeys text := by
  have hkeys (pieces : List (List Char)) :
      List.Forall₂ (fun piece key ↦ Text.Trims piece key.toList) pieces keys ↔
        pieces.map (fun cs ↦ String.ofList (Text.trim cs)) = keys := by
    rw [← List.forall₂_eq_eq_eq, List.forall₂_map_left_iff]
    apply iff_of_eq
    congr 1
    funext piece key
    rw [Text.trims_iff, ← String.toList_inj, String.toList_ofList]
  constructor
  · rintro ⟨pieces, hne, hcomma, htext, h⟩
    rw [ruleKeys, ← htext, Text.splitAt_eq_splitOn, List.splitOn_intercalate ',' hcomma hne,
      (hkeys pieces).mp h]
  · rintro rfl
    refine ⟨Text.splitAt ',' text.toList, ?_, fun _ ↦ Text.notMem_of_mem_splitAt, ?_,
      (hkeys _).mpr rfl⟩
    · rw [Text.splitAt_eq_splitOn]
      exact List.splitOn_ne_nil ',' _
    · rw [Text.splitAt_eq_splitOn, List.intercalate_splitOn]

namespace Rule

def answering (key : String) : List Rule := all.filter fun r ↦ r.name == key || r.code == key

theorem pairwise_all : all.Pairwise fun r s ↦
    r.name ≠ s.name ∧ r.name ≠ s.code ∧ r.code ≠ s.name ∧ r.code ≠ s.code := by
  decide

theorem length_answering_le (key : String) : (answering key).length ≤ 1 := by
  have hpair := pairwise_all.filter fun r ↦ r.name == key || r.code == key
  have hmem (r : Rule) (hr : r ∈ answering key) : r.name = key ∨ r.code = key := by
    simpa using (List.mem_filter.mp hr).2
  rw [← answering] at hpair
  generalize answering key = l at hpair hmem ⊢
  match l, hpair, hmem with
  | [], _, _ => simp
  | [_], _, _ => simp
  | r :: s :: _, hpair, hmem =>
    have hne := List.rel_of_pairwise_cons hpair (List.mem_cons_self (a := s))
    have hr := hmem r (by simp)
    have hs := hmem s (by simp)
    grind

theorem toList_find? (key : String) : (find? key).toList = answering key := by
  have hlen := length_answering_le key
  rw [find?, ← List.head?_filter, ← answering]
  generalize answering key = l at hlen ⊢
  match l, hlen with
  | [], _ => rfl
  | [_], _ => rfl

theorem filter_name_all : ∀ r ∈ all, all.filter (·.name == r.name) = [r] := by
  decide

end Rule

namespace Analyzer

theorem byRule_analyze_all (config : Config) (m : Manifest) {r : Rule} (hr : r ∈ Rule.all) :
    ((build Rule.all config).analyze [m]).byRule r.name = r.report (config.table? r.name) m := by
  rw [byRule_analyze, List.flatMap_singleton,
    ← Rule.Check.flatMap_filter fun s : Rule ↦ s.name == r.name, Rule.filter_name_all r hr,
    List.flatMap_singleton]

/-- What the run with all rules reports under the names that the keys stand for. -/
def projection (config : Config) (m : Manifest) (keys : List String) : List Finding :=
  keys.flatMap fun key ↦ (Rule.answering key).flatMap fun r ↦
    ((build Rule.all config).analyze [m]).byRule r.name

theorem analyzeFile_select (config : Config) (m : Manifest) (keys : List String) :
    (build (Rule.select keys) config).analyzeFile m = projection config m keys := by
  rw [analyzeFile_build, Rule.select, List.filterMap_eq_flatMap_toList, List.flatMap_assoc,
    projection]
  apply List.flatMap_congr
  intro key _
  rw [Rule.toList_find?]
  apply List.flatMap_congr
  intro r hr
  rw [byRule_analyze_all config m (List.mem_filter.mp hr).1]

/-- Selecting rules is projection. Each key of a selection stands for one rule or for none, and the
run with the selected rules reports, key by key, what the run with all rules reports under the
name of that rule. A list of rules selects the keys that it lists. -/
theorem analyzeFile_selected (config : Config) (m : Manifest) :
    (∀ key, (Rule.answering key).length ≤ 1) ∧
    (∀ keys, (build (Rule.select keys) config).analyzeFile m = projection config m keys) ∧
    ∀ text, ∃ keys, (∀ keys', Command.Lists text keys' ↔ keys' = keys) ∧
      (build (Command.chosenRules (some text)) config).analyzeFile m =
        projection config m keys :=
  ⟨Rule.length_answering_le, analyzeFile_select config m, fun text ↦
    ⟨Command.ruleKeys text, fun _ ↦ Command.lists_iff, analyzeFile_select config m _⟩⟩

end Analyzer

end ManifestLint
