import ManifestLint.Proofs.SourceOrder
import Mathlib.Data.List.Basic

namespace ManifestLint.Rule.AutoloaderLayout

open Text Token Stream Declaration

def parts (path : String) : List (List Char) :=
  path.toList.splitOnP fun c ↦ c == '/' || c == '\\'

/-- The parts of the path from the directory for manifests to the file of a name, by the segments
of the name behind the module. -/
def filePath (extension : List Char) : List (List Char) → List (List Char)
  | [] => ["init.".toList ++ extension]
  | [last] => [last ++ '.' :: extension]
  | directory :: rest => directory :: filePath extension rest

/-- The last parts of the path at which the autoloader looks for a name of these segments. -/
def place (extension module : List Char) (rest : List (List Char)) : List (List Char) :=
  module :: "manifests".toList :: filePath extension rest

/-- The path leads to the place in a directory with a longer name that ends like the module's. -/
def LooksLike (path : String) (extension module : List Char) (rest : List (List Char)) : Prop :=
  ∃ before x, x ≠ [] ∧
    parts path = before ++ (x ++ module) :: "manifests".toList :: filePath extension rest

section Parts

theorem exists_splitOn_append (separator : Char) (y e : List Char) {head : List Char}
    {tail : List (List Char)} (he : e.splitOn separator = head :: tail) :
    ∃ before x, (y ++ e).splitOn separator = before ++ (x ++ head) :: tail := by
  induction y with
  | nil => exact ⟨[], [], he⟩
  | cons c y ih =>
    obtain ⟨before, x, hy⟩ := ih
    rw [List.cons_append, List.splitOn, List.splitOnP_cons_eq_if_modifyHead, ← List.splitOn, hy]
    split
    · exact ⟨[] :: before, x, rfl⟩
    · cases before with
      | nil => exact ⟨[], c :: x, rfl⟩
      | cons first before => exact ⟨(c :: first) :: before, x, rfl⟩

theorem suffix_intercalate (separator : List Char) (before : List (List Char)) (x head : List Char)
    (tail : List (List Char)) :
    separator.intercalate (head :: tail) <:+
      separator.intercalate (before ++ (x ++ head) :: tail) := by
  induction before with
  | nil =>
    refine ⟨x, ?_⟩
    cases tail with
    | nil => simp
    | cons next tail => simp only [List.nil_append, List.intercalate_cons_cons, List.append_assoc]
  | cons first before ih =>
    have hne : before ++ (x ++ head) :: tail ≠ [] := by simp
    rw [List.cons_append, List.intercalate_cons_of_ne_nil hne]
    exact ih.trans (List.suffix_append _ _)

/-- A text ends with another one exactly if it has the same last parts, and in front of them a part
that ends with the first part of the other. -/
theorem suffix_iff_splitOn {separator : Char} {e p head : List Char} {tail : List (List Char)}
    (he : e.splitOn separator = head :: tail) :
    e <:+ p ↔ ∃ before x, p.splitOn separator = before ++ (x ++ head) :: tail := by
  constructor
  · rintro ⟨y, rfl⟩
    exact exists_splitOn_append separator y e he
  · rintro ⟨before, x, hp⟩
    have hsuffix := suffix_intercalate [separator] before x head tail
    rwa [← hp, List.intercalate_splitOn, ← he, List.intercalate_splitOn] at hsuffix

theorem splitOn_normalize (cs : List Char) :
    (normalize cs).splitOn '/' = cs.splitOnP fun c ↦ c == '/' || c == '\\' := by
  induction cs with
  | nil => rfl
  | cons c cs ih =>
    rw [normalize, List.map_cons, ← normalize, List.splitOn, List.splitOnP_cons_eq_if_modifyHead,
      List.splitOnP_cons_eq_if_modifyHead, ← List.splitOn, ih]
    by_cases hback : c = '\\'
    · simp [hback]
    · simp [hback]

end Parts

section Place

variable {extension : List Char} {name module : List Char} {rest : List (List Char)}

theorem filePath_ne_nil (extension : List Char) (rest : List (List Char)) :
    filePath extension rest ≠ [] := by
  fun_cases filePath extension rest <;> simp

theorem intercalate_filePath (h : rest ≠ []) :
    ['/'].intercalate (filePath extension rest) = ['/'].intercalate rest ++ '.' :: extension := by
  fun_induction filePath extension rest with
  | case1 => exact absurd rfl h
  | case2 last => simp
  | case3 directory rest hne ih =>
    have hrest : rest ≠ [] := fun hnil ↦ hne hnil
    rw [List.intercalate_cons_of_ne_nil (filePath_ne_nil extension rest),
      List.intercalate_cons_of_ne_nil hrest, ih hrest, List.append_assoc, List.append_assoc,
      List.append_assoc]

theorem expectedPath_eq_intercalate (h : segments name = module :: rest) :
    expectedPath extension name = ['/'].intercalate (place extension module rest) := by
  rw [expectedPath, h, place, List.intercalate_cons_cons,
    List.intercalate_cons_of_ne_nil (filePath_ne_nil extension rest)]
  cases rest with
  | nil => simp [filePath]
  | cons first rest => simp [intercalate_filePath]

theorem notMem_of_mem_filePath (hextension : '/' ∉ extension) (hrest : ∀ s ∈ rest, '/' ∉ s) :
    ∀ part ∈ filePath extension rest, '/' ∉ part := by
  fun_induction filePath extension rest with
  | case1 => simpa using hextension
  | case2 last => simp_all
  | case3 directory rest _ ih => simp_all

theorem splitOn_expectedPath (h : segments name = module :: rest) (hextension : '/' ∉ extension)
    (hname : ∀ s ∈ segments name, '/' ∉ s) :
    (expectedPath extension name).splitOn '/' = place extension module rest := by
  rw [h, List.forall_mem_cons] at hname
  have hpart : ∀ part ∈ place extension module rest, '/' ∉ part := by
    rw [place, List.forall_mem_cons, List.forall_mem_cons]
    exact ⟨hname.1, by decide, notMem_of_mem_filePath hextension hname.2⟩
  rw [expectedPath_eq_intercalate h, List.splitOn_intercalate '/' hpart (List.cons_ne_nil _ _)]

end Place

section Silence

variable {r : Rule} {extension path : String} {tokens : List Token} {d : Declaration}

theorem findingsIn_eq_nil_iff (hr : r.check = .autoloaderLayout extension) (hpath : path ≠ "")
    (hd : d ∈ locate tokens) :
    r.findingsIn path tokens d = [] ↔
      expectedPath extension.toList (d.nameText tokens).toList <:+ normalize path.toList := by
  obtain ⟨body, hdecl⟩ := mem_locate_iff.mp hd
  obtain ⟨name, hname, _⟩ := hdecl.significantAt_name
  have htext : d.nameText tokens = name.text := by
    rw [nameText, hname, Option.map_some, Option.getD_some]
  rw [findingsIn, List.map_eq_nil_iff, hr, Check.hitsIn, if_neg (by simpa using hpath), hname,
    Option.bind_some, Option.toList_eq_nil_iff, hit?, htext, ← List.isSuffixOf_iff_suffix]
  split <;> simp_all

theorem suffix_or_looksLike_iff {extension module : List Char} {rest : List (List Char)} :
    place extension module rest <:+ parts path ∨ LooksLike path extension module rest ↔
      ∃ before x, parts path = before ++
        (x ++ module) :: "manifests".toList :: filePath extension rest := by
  constructor
  · rintro (⟨before, hparts⟩ | ⟨before, x, _, hparts⟩)
    · exact ⟨before, [], hparts.symm⟩
    · exact ⟨before, x, hparts⟩
  · rintro ⟨before, x, hparts⟩
    by_cases hx : x = []
    · subst hx
      exact .inl ⟨before, hparts.symm⟩
    · exact .inr ⟨before, x, hx, hparts⟩

theorem not_looksLike_of_suffix {extension module : List Char} {rest : List (List Char)}
    (h : place extension module rest <:+ parts path) : ¬ LooksLike path extension module rest := by
  rintro ⟨before, x, hx, hparts⟩
  obtain ⟨before', hparts'⟩ := h
  rw [hparts] at hparts'
  have hplace := (List.append_inj' hparts' (by simp [place])).2
  have hmodule : module = x ++ module := (List.cons.inj hplace).1
  exact hx (List.append_left_eq_self.mp hmodule.symm)

end Silence

/-- The check accepts a path for a declaration exactly if the path leads to the place at which the
autoloader looks for the name, or looks like it: all its last parts are as they should be, but that
the name of the module stands at the end of a longer name of a directory. -/
theorem findings_layout {r : Rule} {extension path : String}
    (hr : r.check = .autoloaderLayout extension) (hextension : '/' ∉ extension.toList)
    (hpath : path ≠ "") (tokens : List Token) {d : Declaration} (hd : d ∈ locate tokens)
    (hname : ∀ s ∈ segments (d.nameText tokens).toList, '/' ∉ s) :
    r.findings ⟨path, tokens⟩ = (locate tokens).flatMap (r.findingsIn path tokens) ∧
    ∃ module rest, segments (d.nameText tokens).toList = module :: rest ∧
      (expectedPath extension.toList (d.nameText tokens).toList).splitOn '/' =
        place extension.toList module rest ∧
      (r.findingsIn path tokens d = [] ↔ place extension.toList module rest <:+ parts path ∨
        LooksLike path extension.toList module rest) ∧
      (place extension.toList module rest <:+ parts path →
        ¬ LooksLike path extension.toList module rest) := by
  obtain ⟨module, rest, hsegments⟩ :=
    List.exists_cons_of_ne_nil (segments_ne_nil (d.nameText tokens).toList)
  have hexpected := splitOn_expectedPath hsegments hextension hname
  refine ⟨findings_eq_flatMap (by simp [hr]) path tokens, module, rest, hsegments, hexpected, ?_,
    not_looksLike_of_suffix⟩
  rw [findingsIn_eq_nil_iff hr hpath hd, suffix_iff_splitOn hexpected, splitOn_normalize,
    suffix_or_looksLike_iff]
  rfl

/-- A name of three segments in a path with backslashes. -/
theorem findings_layout_nested :
    let tokens : List Token := [⟨.defineWord, "define", 1, 1⟩, ⟨.name, "a::b::c", 1, 8⟩,
      ⟨.leftBrace, "", 1, 16⟩, ⟨.rightBrace, "", 1, 17⟩]
    let path := "C:\\modules\\a\\manifests\\b\\c.pp"
    let d : Declaration := ⟨.definedType, 0, 1, 3⟩
    let r := (Check.autoloaderLayout "pp").toRule
    d ∈ locate tokens ∧ (∀ s ∈ segments (d.nameText tokens).toList, '/' ∉ s) ∧
      place "pp".toList "a".toList ["b".toList, "c".toList] <:+ parts path ∧
      r.findings ⟨path, tokens⟩ = [] := by
  intro tokens path d r
  have hd : d ∈ locate tokens := by decide
  have hname : ∀ s ∈ segments (d.nameText tokens).toList, '/' ∉ s := by decide
  have hsuffix : place "pp".toList "a".toList ["b".toList, "c".toList] <:+ parts path := by decide
  have hlocate : locate tokens = [d] := by decide
  have hname' : segments (d.nameText tokens).toList = ["a".toList, "b".toList, "c".toList] := by
    decide
  obtain ⟨hfindings, module, rest, hsegments, -, hsilent, -⟩ :=
    findings_layout (r := r) rfl (by decide : '/' ∉ "pp".toList) (by decide : path ≠ "") tokens hd
      hname
  rw [hname'] at hsegments
  cases hsegments
  refine ⟨hd, hname, hsuffix, ?_⟩
  rw [hfindings, hlocate, List.flatMap_singleton]
  exact hsilent.mpr (.inl hsuffix)

/-- The directory is not that of the module, but its name ends like the module's: nothing is
reported. -/
theorem findings_other_module :
    let tokens : List Token := [⟨.classWord, "class", 1, 1⟩, ⟨.name, "foo", 1, 7⟩,
      ⟨.leftBrace, "", 1, 11⟩, ⟨.rightBrace, "", 1, 13⟩]
    let path := "xfoo/manifests/init.pp"
    let d : Declaration := ⟨.classDecl, 0, 1, 3⟩
    d ∈ locate tokens ∧ segments (d.nameText tokens).toList = ["foo".toList] ∧
      ¬ place "pp".toList "foo".toList [] <:+ parts path ∧
      (Check.autoloaderLayout "pp").toRule.findingsIn path tokens d = [] := by
  decide

end ManifestLint.Rule.AutoloaderLayout
