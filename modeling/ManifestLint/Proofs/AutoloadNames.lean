import ManifestLint.Proofs.AutoloadPath
import ManifestLint.Proofs.Segments

namespace ManifestLint.Rule.AutoloaderLayout

open Text

/-- No separator stands in the name, and it ends with no colon that would begin one put behind it. -/
def IsModule (name : List Char) : Prop := ¬ [':', ':'] <:+: name ∧ name.getLast? ≠ some ':'

instance (name : List Char) : Decidable (IsModule name) := inferInstanceAs (Decidable (_ ∧ _))

/-- The segments by which a file is called: a module's own file is called `init`. -/
def fileSegments : List (List Char) → List (List Char)
  | [] => ["init".toList]
  | first :: rest => first :: rest

section FilePath

variable {extension : List Char} {r s : List (List Char)}

theorem fileSegments_ne_nil (r : List (List Char)) : fileSegments r ≠ [] := by
  cases r <;> exact List.cons_ne_nil _ _

theorem filePath_fileSegments (extension : List Char) (r : List (List Char)) :
    filePath extension (fileSegments r) = filePath extension r := by
  cases r <;> rfl

theorem filePath_inj (hr : r ≠ []) (hs : s ≠ []) (h : filePath extension r = filePath extension s) :
    r = s := by
  fun_induction filePath extension r generalizing s with
  | case1 => exact absurd rfl hr
  | case2 last =>
    cases s with
    | nil => exact absurd rfl hs
    | cons first rest =>
      cases rest with
      | nil => rw [List.append_cancel_right (List.cons.inj h).1]
      | cons next rest =>
        exact absurd (List.cons.inj h).2.symm (filePath_ne_nil extension (next :: rest))
  | case3 directory rest hrest ih =>
    have hrest : rest ≠ [] := fun hnil ↦ hrest hnil
    cases s with
    | nil => exact absurd rfl hs
    | cons first rest' =>
      cases rest' with
      | nil => exact absurd (List.cons.inj h).2 (filePath_ne_nil extension rest)
      | cons next rest' =>
        obtain ⟨rfl, htail⟩ := List.cons.inj h
        rw [ih hrest (List.cons_ne_nil next rest') htail]

theorem filePath_eq_iff (extension : List Char) :
    filePath extension r = filePath extension s ↔ fileSegments r = fileSegments s := by
  rw [← filePath_fileSegments extension r, ← filePath_fileSegments extension s]
  exact ⟨filePath_inj (fileSegments_ne_nil r) (fileSegments_ne_nil s), congrArg _⟩

theorem fileSegments_eq_iff : fileSegments r = fileSegments s ↔
    r = s ∨ (r = [] ∧ s = ["init".toList]) ∨ (s = [] ∧ r = ["init".toList]) := by
  cases r <;> cases s <;> simp [fileSegments, eq_comm]

end FilePath

section Names

variable {n n' m m' : List Char} {r r' : List (List Char)}

theorem expectedPath_append (extension name : List Char) :
    expectedPath extension name = expectedPath [] name ++ extension := by
  unfold expectedPath
  split <;> simp_all [segments_ne_nil]

/-- The extension may hold slashes: it stands behind both paths and is taken off first. -/
theorem expectedPath_eq_iff_segments (extension : List Char) (hn : '/' ∉ n) (hn' : '/' ∉ n')
    (h : segments n = m :: r) (h' : segments n' = m' :: r') :
    expectedPath extension n = expectedPath extension n' ↔
      m = m' ∧ fileSegments r = fileSegments r' := by
  have hparts {n m : List Char} {r : List (List Char)} (hn : '/' ∉ n) (h : segments n = m :: r) :
      (expectedPath [] n).splitOn '/' = place [] m r :=
    splitOn_expectedPath h List.not_mem_nil fun _ hs hslash ↦ hn (mem_of_mem_segments hs hslash)
  rw [expectedPath_append extension n, expectedPath_append extension n',
    List.append_cancel_right_eq, ← filePath_eq_iff []]
  constructor
  · intro heq
    have hplace : place [] m r = place [] m' r' := by rw [← hparts hn h, heq, hparts hn' h']
    obtain ⟨hm, hrest⟩ := List.cons.inj hplace
    exact ⟨hm, (List.cons.inj hrest).2⟩
  · rintro ⟨rfl, hfile⟩
    rw [expectedPath_eq_intercalate h, expectedPath_eq_intercalate h', place, place, hfile]

theorem segments_init_iff :
    (∃ m, segments n = [m] ∧ segments n' = [m, "init".toList]) ↔
      IsModule n ∧ n' = n ++ "::init".toList := by
  constructor
  · rintro ⟨m, hm, hinit⟩
    obtain rfl : m = n := by rw [← intercalate_segments n, hm, List.intercalate_singleton]
    have hn' : n' = m ++ "::init".toList := by
      rw [← intercalate_segments n', hinit]
      simp
    have hclear := segments_eq_singleton_iff.mp hm
    refine ⟨⟨hclear, fun hlast ↦ ?_⟩, hn'⟩
    obtain ⟨front, rfl⟩ := List.getLast?_eq_some_iff.mp hlast
    have hsplit := segments_append_colon hclear "init".toList
    have hcolons : front ++ ':' :: ':' :: ':' :: "init".toList = n' := by
      rw [hn', List.append_assoc]
      rfl
    rw [hcolons, hinit] at hsplit
    exact List.cons_ne_nil _ _ (List.append_right_eq_self.mp (List.cons.inj hsplit).1)
  · rintro ⟨⟨hclear, hlast⟩, rfl⟩
    have hone : segments n = [n] := segments_eq_singleton_iff.mpr hclear
    refine ⟨n, hone, ?_⟩
    have hsplit := segments_append hlast "init".toList
    rw [hone] at hsplit
    exact hsplit

end Names

/-- Two names without slashes have their place in one file exactly if they are equal, or one is the
name of a module and the other the class `init` in that module. -/
theorem expectedPath_eq_iff (extension : List Char) {n n' : List Char} (hn : '/' ∉ n)
    (hn' : '/' ∉ n') :
    expectedPath extension n = expectedPath extension n' ↔
      n = n' ∨ (IsModule n ∧ n' = n ++ "::init".toList) ∨
        (IsModule n' ∧ n = n' ++ "::init".toList) := by
  obtain ⟨m, r, h⟩ := List.exists_cons_of_ne_nil (segments_ne_nil n)
  obtain ⟨m', r', h'⟩ := List.exists_cons_of_ne_nil (segments_ne_nil n')
  rw [expectedPath_eq_iff_segments extension hn hn' h h', fileSegments_eq_iff, ← segments_init_iff,
    ← segments_init_iff, h, h']
  constructor
  · rintro ⟨rfl, rfl | ⟨rfl, rfl⟩ | ⟨rfl, rfl⟩⟩
    · exact .inl (segments_inj (h.trans h'.symm))
    · exact .inr (.inl ⟨m, rfl, rfl⟩)
    · exact .inr (.inr ⟨m, rfl, rfl⟩)
  · rintro (rfl | ⟨x, hx, hx'⟩ | ⟨x, hx, hx'⟩)
    · obtain ⟨hm, hr⟩ := List.cons.inj (h.symm.trans h')
      exact ⟨hm, .inl hr⟩
    · obtain ⟨rfl, rfl⟩ := List.cons.inj hx
      obtain ⟨rfl, rfl⟩ := List.cons.inj hx'
      exact ⟨rfl, .inr (.inl ⟨rfl, rfl⟩)⟩
    · obtain ⟨rfl, rfl⟩ := List.cons.inj hx
      obtain ⟨rfl, rfl⟩ := List.cons.inj hx'
      exact ⟨rfl, .inr (.inr ⟨rfl, rfl⟩)⟩

/-- A module, its class `init`, and another class in it. -/
theorem expectedPath_eq_iff_init :
    let extension := ['p', 'p']
    let n := ['a', ':', 'b']
    let n' := n ++ "::init".toList
    let other := n ++ [':', ':', 'c']
    '/' ∉ n ∧ '/' ∉ n' ∧ '/' ∉ other ∧ expectedPath extension n = expectedPath extension n' ∧
      expectedPath extension n ≠ expectedPath extension other := by
  intro extension n n' other
  have hn : '/' ∉ n := by decide
  have hn' : '/' ∉ n' := by decide
  have hother : '/' ∉ other := by decide
  have hmodule : IsModule n := by decide
  refine ⟨hn, hn', hother, (expectedPath_eq_iff extension hn hn').mpr (.inr (.inl ⟨hmodule, rfl⟩)),
    fun heq ↦ ?_⟩
  rcases (expectedPath_eq_iff extension hn hother).mp heq with h | ⟨_, h⟩ | ⟨_, h⟩
  · exact absurd h (by decide)
  · exact absurd h (by decide)
  · exact absurd h (by decide)

/-- No separator stands in the name, but it ends with a colon. -/
theorem expectedPath_ne_of_colon :
    let n := ['a', ':']
    let n' := n ++ "::init".toList
    '/' ∉ n ∧ '/' ∉ n' ∧ ¬ [':', ':'] <:+: n ∧
      expectedPath ['p', 'p'] n ≠ expectedPath ['p', 'p'] n' := by
  decide

end ManifestLint.Rule.AutoloaderLayout
