import ManifestLint.Rule
import ManifestLint.Proofs.Alignment
import Mathlib.Data.List.Basic
import Mathlib.Data.List.Flatten

namespace ManifestLint

open Token Stream Declaration

theorem Declaration.tokens_one {tokens : List Token} {d : Declaration}
    (hs : SignificantAt tokens d.start) (hle : d.start ≤ d.last) :
    d.tokens tokens 1 = (d.tokens tokens 0).tail := by
  obtain ⟨t, ht, hts⟩ := hs
  change significant tokens (d.start + 1) d.last = (significant tokens d.start d.last).tail
  rw [significant_eq_cons ht hts hle, List.tail_cons]

namespace Rule.Check

theorem flatMap_filter {α β : Type} (p : α → Bool) (g : α → List β) (l : List α) :
    (l.filter p).flatMap g = l.flatMap fun a ↦ if p a then g a else [] := by
  induction l with
  | nil => rfl
  | cons a l ih =>
    rw [List.flatMap_cons, ← ih]
    cases ha : p a
    · simp [ha]
    · simp [ha]

def hitsIn (path : String) (tokens : List Token) (d : Declaration) : Check → List Hit
  | .rightToLeft => []
  | .autoloaderLayout extension =>
    if path.isEmpty then []
    else (tokens[d.name]?.bind (AutoloaderLayout.hit? extension path)).toList
  | .parameterOrder => ParameterOrder.hitsIn tokens d
  | .inheritsAcrossNamespaces =>
    if d.isClass then (InheritsAcrossNamespaces.hitIn tokens d).toList else []
  | .nestedDeclarations =>
    if d.isClass then NestedDeclarations.hitsAmong (d.tokens tokens 1) else []
  | .variableScope extra => VariableScope.hitsIn extra tokens d

def looseHits (tokens : List Token) : Check → List Hit
  | .rightToLeft => RightToLeft.hits tokens
  | _ => []

theorem hits_eq (check : Check) (path : String) (tokens : List Token) :
    check.hits ⟨path, tokens⟩ =
      check.looseHits tokens ++ (locate tokens).flatMap (check.hitsIn path tokens ·) := by
  cases check with
  | rightToLeft => simp [hits, looseHits, hitsIn]
  | autoloaderLayout extension =>
    simp only [hits, AutoloaderLayout.hits, looseHits, hitsIn, List.nil_append]
    by_cases hp : path.isEmpty
    · simp [hp]
    · simp only [hp, Bool.false_eq_true, if_false, List.filterMap_eq_flatMap_toList]
  | parameterOrder => rfl
  | inheritsAcrossNamespaces =>
    simp only [hits, InheritsAcrossNamespaces.hits, looseHits, hitsIn, List.nil_append]
    rw [List.filterMap_eq_flatMap_toList, flatMap_filter]
  | nestedDeclarations =>
    simp only [hits, NestedDeclarations.hits, looseHits, hitsIn, List.nil_append]
    rw [flatMap_filter]
  | variableScope extra => rfl

def eventsIn (tokens : List Token) (d : Declaration) : Check → List Event
  | .parameterOrder => ParameterOrder.eventsIn tokens d
  | .variableScope _ => d.parameterEvents tokens
  | _ => []

theorem events_eq (check : Check) (m : Manifest) :
    check.events m = (locate m.tokens).flatMap (check.eventsIn m.tokens ·) := by
  cases check with
  | parameterOrder => rfl
  | variableScope extra => rfl
  | _ => simp [events, eventsIn]

end Rule.Check

namespace Alignment

variable {A B : List Token} {f : Nat → Nat} {lo hi body : Nat} {d : Declaration}

theorem tokens_zero (al : Alignment A B f lo hi) (h : IsDeclaration A d body) :
    (d.reindex f).tokens B 0 = d.tokens A 0 := by
  exact al.segment d.start d.last h.significantAt_start h.significantAt_last h.start_le_last

theorem tokens_one (al : Alignment A B f lo hi) (h : IsDeclaration A d body) :
    (d.reindex f).tokens B 1 = d.tokens A 1 := by
  have hB := al.isDeclaration_reindex h
  rw [Declaration.tokens_one h.significantAt_start h.start_le_last,
    Declaration.tokens_one hB.significantAt_start hB.start_le_last, al.tokens_zero h]

theorem parameters_significant (al : Alignment A B f lo hi) (h : IsDeclaration A d body)
    {o k : Nat} (hr : d.parameters A = some (o, k)) :
    (d.reindex f).parameters B = some (f o, f k) ∧
      significant B (f o) (f k) = significant A o k ∧
      significant B (f o + 1) (f k - 1) = significant A (o + 1) (k - 1) := by
  have hp := parameters_of_isDeclaration h
  rw [hr] at hp
  cases hp with
  | list first closed before =>
    have ho : SignificantAt A o := significantAt_of_kindAt closed.opens rfl
    have hk : SignificantAt A k := significantAt_of_kindAt closed.kindAt rfl
    have hseg := al.segment o k ho hk closed.lt.le
    refine ⟨by rw [al.parameters_reindex h, hr]; rfl, hseg, ?_⟩
    rw [significant_between ho hk closed.lt, ← hseg, significant_between (al.significantAt ho)
      (al.significantAt hk) ((al.lt_iff ho hk).mpr closed.lt)]

theorem interior_eq (al : Alignment A B f lo hi) (h : IsDeclaration A d body) :
    Rule.ParameterOrder.interior (d.reindex f) B = Rule.ParameterOrder.interior d A := by
  unfold Rule.ParameterOrder.interior
  cases hr : d.parameters A with
  | none => rw [al.parameters_reindex h, hr]; rfl
  | some r =>
    obtain ⟨hB, _, hin⟩ := al.parameters_significant h hr
    rw [hB, Option.map_some, Option.map_some, hin]

theorem scope_eq (al : Alignment A B f lo hi) (h : IsDeclaration A d body) (extra : List String) :
    Rule.VariableScope.scope extra B (d.reindex f) = Rule.VariableScope.scope extra A d := by
  unfold Rule.VariableScope.scope
  rw [al.tokens_zero h]
  cases hr : d.parameters A with
  | none => rw [al.parameters_reindex h, hr]; rfl
  | some r =>
    obtain ⟨hB, hlist, _⟩ := al.parameters_significant h hr
    simp only [hB, hlist]

/-- A declaration has the same hits at a corresponding place. -/
theorem hitsIn_reindex (al : Alignment A B f lo hi) (h : IsDeclaration A d body) (path : String)
    (check : Rule.Check) : check.hitsIn path B (d.reindex f) = check.hitsIn path A d := by
  have hname : B[(d.reindex f).name]? = A[d.name]? := al.getElem?_eq h.significantAt_name
  cases check with
  | rightToLeft => rfl
  | autoloaderLayout extension => simp only [Rule.Check.hitsIn, hname]
  | parameterOrder =>
    simp only [Rule.Check.hitsIn, Rule.ParameterOrder.hitsIn, al.interior_eq h]
  | inheritsAcrossNamespaces =>
    simp only [Rule.Check.hitsIn, Rule.InheritsAcrossNamespaces.hitIn, al.tokens_zero h, hname]
    rfl
  | nestedDeclarations =>
    simp only [Rule.Check.hitsIn, al.tokens_one h]
    rfl
  | variableScope extra =>
    simp only [Rule.Check.hitsIn, Rule.VariableScope.hitsIn, al.tokens_zero h, al.scope_eq h]

/-- The hits in the declarations of `A` are those in the declarations of `B` that lie between `lo`
and `hi`. -/
theorem flatMap_hitsIn (al : Alignment A B f lo hi) (path : String) (check : Rule.Check) :
    (locate A).flatMap (check.hitsIn path A ·) =
      ((locate B).filter (fun e ↦ lo ≤ e.start ∧ e.last < hi)).flatMap (check.hitsIn path B ·) := by
  rw [← al.map_reindex_locate, List.flatMap_map]
  apply List.flatMap_congr
  intro d hd
  obtain ⟨body, h⟩ := mem_locate_iff.mp hd
  exact (al.hitsIn_reindex h path check).symm

end Alignment

end ManifestLint
