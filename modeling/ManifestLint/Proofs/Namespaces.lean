import ManifestLint.Proofs.Segments
import ManifestLint.Rule.Checks

namespace ManifestLint.Rule.InheritsAcrossNamespaces

open Text

/-- The segments of a name behind the separators at its start. -/
def levels (name : List Char) : List (List Char) := segments (dropSeparators name)

variable {child parent a b c : List Char}

theorem isWithin_iff : isWithin child parent = true ↔
    ∃ rest, dropSeparators child = dropSeparators parent ++ ':' :: ':' :: rest := by
  rw [isWithin, List.isPrefixOf_iff_prefix]
  constructor
  · rintro ⟨rest, hrest⟩
    rw [List.append_assoc] at hrest
    exact ⟨rest, hrest.symm⟩
  · rintro ⟨rest, hrest⟩
    refine ⟨rest, ?_⟩
    rw [List.append_assoc]
    exact hrest.symm

theorem isWithin_self (name : List Char) : isWithin name name = false := by
  rw [Bool.eq_false_iff, Ne, isWithin_iff]
  rintro ⟨rest, hrest⟩
  exact List.cons_ne_nil _ _ (List.append_right_eq_self.mp hrest.symm)

theorem isWithin_trans (hab : isWithin a b = true) (hbc : isWithin b c = true) :
    isWithin a c = true := by
  rw [isWithin_iff] at hab hbc ⊢
  obtain ⟨x, hx⟩ := hab
  obtain ⟨y, hy⟩ := hbc
  refine ⟨y ++ ':' :: ':' :: x, ?_⟩
  rw [hx, hy, List.append_assoc, List.cons_append, List.cons_append]

theorem isWithin_of_levels {more : List (List Char)} (hmore : more ≠ [])
    (h : levels child = levels parent ++ more) : isWithin child parent = true := by
  refine isWithin_iff.mpr ⟨[':', ':'].intercalate more, ?_⟩
  have hparent : levels parent ≠ [] := segments_ne_nil _
  rw [← intercalate_segments (dropSeparators child), ← levels, h,
    intercalate_append hparent hmore, levels, intercalate_segments, List.append_assoc]
  rfl

/-- The colons behind `parent` would be three in a row if it ended with one itself. -/
theorem levels_of_isWithin (hchild : ¬ [':', ':', ':'] <:+: child)
    (h : isWithin child parent = true) : ∃ rest, levels child = levels parent ++ segments rest := by
  obtain ⟨rest, hrest⟩ := isWithin_iff.mp h
  have hlast : (dropSeparators parent).getLast? ≠ some ':' := by
    intro hlast
    obtain ⟨front, hfront⟩ := List.getLast?_eq_some_iff.mp hlast
    apply hchild
    refine List.IsInfix.trans ⟨front, rest, ?_⟩ (dropSeparators_suffix child).isInfix
    rw [hrest, hfront]
    simp
  exact ⟨rest, by rw [levels, hrest, segments_append hlast, levels]⟩

theorem isWithin_iff_exists (hchild : ¬ [':', ':', ':'] <:+: child) :
    isWithin child parent = true ↔ ∃ more, more ≠ [] ∧ levels child = levels parent ++ more := by
  constructor
  · intro h
    obtain ⟨rest, hrest⟩ := levels_of_isWithin hchild h
    exact ⟨segments rest, segments_ne_nil rest, hrest⟩
  · rintro ⟨more, hmore, h⟩
    exact isWithin_of_levels hmore h

/-- A name without three colons in a row lies within the namespace of another exactly if the
segments of the other are the first of its own, and not all of them. So no name lies within its own
namespace, a namespace holds those of the names within it, and a segment is not taken for a longer
one that begins with it. -/
theorem isWithin_iff_levels :
    (∀ child parent : List Char, ¬ [':', ':', ':'] <:+: child → ¬ [':', ':', ':'] <:+: parent →
      (isWithin child parent = true ↔
        levels parent <+: levels child ∧ levels parent ≠ levels child)) ∧
    (∀ name, isWithin name name = false) ∧
    (∀ a b c, isWithin a b = true → isWithin b c = true → isWithin a c = true) ∧
    ∀ child parent : List Char, ¬ [':', ':', ':'] <:+: child → ¬ [':', ':', ':'] <:+: parent →
      ∀ before s x after, x ≠ [] → levels parent = before ++ [s] →
        levels child = before ++ (s ++ x) :: after → isWithin child parent = false := by
  refine ⟨fun child parent hchild _ ↦ ?_, isWithin_self, fun a b c ↦ isWithin_trans,
    fun child parent hchild _ before s x after hx hparent hlonger ↦ ?_⟩
  · rw [isWithin_iff_exists hchild]
    constructor
    · rintro ⟨more, hmore, h⟩
      refine ⟨⟨more, h.symm⟩, fun heq ↦ hmore ?_⟩
      exact List.append_right_eq_self.mp (h.symm.trans heq.symm)
    · rintro ⟨⟨more, h⟩, hne⟩
      refine ⟨more, ?_, h.symm⟩
      rintro rfl
      exact hne (by rw [← h, List.append_nil])
  · rw [Bool.eq_false_iff, Ne, isWithin_iff_exists hchild]
    rintro ⟨more, _, h⟩
    rw [hlonger, hparent, List.append_assoc] at h
    have hs : s ++ x = s := (List.cons.inj (List.append_cancel_left h)).1
    exact hx (List.append_right_eq_self.mp hs)

/-- Separators at the start and the end, and a single colon inside. -/
theorem isWithin_iff_levels_colons :
    let child := [':', ':', 'f', ':', ':', 'b', ':', 'x', ':', ':']
    let parent := ['f', ':', ':', 'b', ':', 'x']
    let sibling := [':', ':', 'f', ':', ':', 'b']
    ¬ [':', ':', ':'] <:+: child ∧ ¬ [':', ':', ':'] <:+: parent ∧ ¬ [':', ':', ':'] <:+: sibling ∧
      isWithin child parent = true ∧ isWithin parent ['f'] = true ∧
      isWithin child ['f'] = true ∧ isWithin child sibling = false := by
  intro child parent sibling
  have hchild : ¬ [':', ':', ':'] <:+: child := by decide
  have hparent : ¬ [':', ':', ':'] <:+: parent := by decide
  have hsibling : ¬ [':', ':', ':'] <:+: sibling := by decide
  have hroot : ¬ [':', ':', ':'] <:+: ['f'] := by decide
  obtain ⟨hiff, -, htrans, hlonger⟩ := isWithin_iff_levels
  have hwithin := (hiff child parent hchild hparent).mpr (by decide)
  have hfirst := (hiff parent ['f'] hparent hroot).mpr (by decide)
  exact ⟨hchild, hparent, hsibling, hwithin, hfirst, htrans _ _ _ hwithin hfirst,
    hlonger child sibling hchild hsibling [['f']] ['b'] [':', 'x'] [[]] (by decide) (by decide)
      (by decide)⟩

end ManifestLint.Rule.InheritsAcrossNamespaces
