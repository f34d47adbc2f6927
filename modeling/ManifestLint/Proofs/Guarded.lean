import ManifestLint.Proofs.Location
import Mathlib.Algebra.Ring.Nat

namespace ManifestLint

open Token Stream

namespace Guarded

theorem add_eq_ok {a b : Nat} (h : a + b < 2 ^ 64) : add a b = .ok (a + b) := if_pos h

theorem add_eq_error {a b : Nat} (h : 2 ^ 64 ≤ a + b) : add a b = .error (.overflow a b) :=
  if_neg (not_lt.mpr h)

theorem eq_of_add_eq_ok {a b n : Nat} (h : add a b = .ok n) : n = a + b := by
  rw [add] at h
  split at h
  · exact (Except.ok.inj h).symm
  · cases h

theorem add_bind_eq_ok_iff {α : Type} {a b : Nat} {f : Nat → α} {x : α} :
    (add a b >>= fun n ↦ (.ok (f n) : Guarded α)) = .ok x ↔ a + b < 2 ^ 64 ∧ f (a + b) = x := by
  rcases Nat.lt_or_ge (a + b) (2 ^ 64) with h | h
  · rw [add_eq_ok h, ok_bind, Except.ok.injEq, and_iff_right h]
  · rw [add_eq_error h, error_bind]
    exact iff_of_false nofun fun hlt ↦ absurd hlt.1 (not_lt.mpr h)

theorem add_bind_eq_error_iff {α : Type} {a b : Nat} {f : Nat → α} {fault : Fault} :
    (add a b >>= fun n ↦ (.ok (f n) : Guarded α)) = .error fault ↔
      2 ^ 64 ≤ a + b ∧ fault = .overflow a b := by
  rcases Nat.lt_or_ge (a + b) (2 ^ 64) with h | h
  · rw [add_eq_ok h, ok_bind]
    exact iff_of_false nofun fun hge ↦ absurd h (not_lt.mpr hge.1)
  · rw [add_eq_error h, error_bind, and_iff_right h, Except.error.injEq, eq_comm]

def nextSignificant (tokens : List Token) (i : Nat) : Guarded (Option Nat) :=
  if i + 1 < 2 ^ 64 ∧ i + 1 ≤ tokens.length then
    match (tokens.drop (i + 1)).findIdx? isSignificant with
    | some offset => do
      let n ← add (i + 1) offset
      return some n
    | none => return none
  else return none

def closeFrom (d : Delimiter) (depth i : Nat) : List Token → Guarded (Option Nat)
  | [] => return none
  | t :: rest => do
    let next ← add i 1
    if t.kind = d.opener then
      let depth ← add depth 1
      closeFrom d depth next rest
    else if t.kind = d.closer then
      let depth ← sub depth 1
      if depth = 0 then return some i else closeFrom d depth next rest
    else closeFrom d depth next rest

def matchingClose (d : Delimiter) (tokens : List Token) (i : Nat) :
    Guarded (Except Delimiter.Imbalance Nat) :=
  if kindAt tokens i = some d.opener then do
    match ← closeFrom d 0 i (tokens.drop i) with
    | some close => return .ok close
    | none => return .error (.neverClosed i d)
  else return .error (.notAnOpener i d)

def bodyFrom (depth i : Nat) : List Token → Guarded (Option Nat)
  | [] => return none
  | t :: rest => do
    let next ← add i 1
    if t.kind = .leftParen then
      let depth ← add depth 1
      bodyFrom depth next rest
    else if t.kind = .rightParen then
      match depth with
      | 0 => return none
      | depth + 1 => bodyFrom depth next rest
    else if t.kind = .leftBrace ∧ depth = 0 then return some i
    else bodyFrom depth next rest

def bodyOpen (tokens : List Token) (name : Nat) : Guarded (Option Nat) := do
  let first ← add name 1
  bodyFrom 0 first (tokens.drop first)

def examine (tokens : List Token) (keyword : Token) (i : Nat) :
    Guarded (Option (Except Event Declaration)) :=
  match Declaration.Kind.ofKeyword? keyword.kind with
  | none => return none
  | some kind => do
    match ← nextSignificant tokens i with
    | none => return none
    | some n =>
      let name ← index tokens n
      if name.kind = .name then
        match ← bodyOpen tokens n with
        | none =>
          let name ← index tokens n
          return some (.error (.bodyMissing name.text keyword.line keyword.column))
        | some body =>
          match ← matchingClose .brace tokens body with
          | .ok last => return some (.ok ⟨kind, i, n, last⟩)
          | .error cause =>
            let name ← index tokens n
            return some (.error (.bodyUnclosed name.text cause))
      else return none

def examineAll (tokens : List Token) : Guarded (List (Except Event Declaration)) := do
  let examined ← tokens.zipIdx.mapM fun p ↦ examine tokens p.1 p.2
  return examined.filterMap id

variable {tokens : List Token}

theorem nextSignificant_eq_ok (h : tokens.length < 2 ^ 63) (i : Nat) :
    nextSignificant tokens i = .ok (Stream.nextSignificant tokens i) := by
  unfold nextSignificant Stream.nextSignificant
  by_cases hi : i + 1 < 2 ^ 64 ∧ i + 1 ≤ tokens.length
  · rw [if_pos hi]
    cases ho : (tokens.drop (i + 1)).findIdx? isSignificant with
    | none => rfl
    | some offset =>
      obtain ⟨hlt, _⟩ := List.findIdx?_eq_some_iff_getElem.mp ho
      rw [List.length_drop] at hlt
      have hsum : add (i + 1) offset = .ok (i + 1 + offset) := add_eq_ok (by omega)
      simp only [hsum, ok_bind, Option.map_some, Nat.add_comm offset]
      rfl
  · have hnil : tokens.drop (i + 1) = [] := List.drop_eq_nil_iff.mpr (by omega)
    rw [if_neg hi, hnil]
    rfl

/-- With a pair open the depth is never zero before a closing token. -/
theorem closeFrom_eq_ok (d : Delimiter) {depth i : Nat} {l : List Token} (hpos : 0 < depth)
    (hdepth : depth + l.length < 2 ^ 64) (hi : i + l.length < 2 ^ 64) :
    closeFrom d depth i l = .ok (d.closeFrom depth i l) := by
  induction l generalizing depth i with
  | nil => rfl
  | cons t l ih =>
    rw [List.length_cons] at hdepth hi
    have hnext : add i 1 = .ok (i + 1) := add_eq_ok (by omega)
    have hup : add depth 1 = .ok (depth + 1) := add_eq_ok (by omega)
    have hdown : sub depth 1 = .ok (depth - 1) := sub_eq_ok (by omega)
    rw [closeFrom, Delimiter.closeFrom, hnext, ok_bind]
    by_cases ho : t.kind = d.opener
    · rw [if_pos ho, if_pos ho, hup, ok_bind, ih (by omega) (by omega) (by omega)]
    · rw [if_neg ho, if_neg ho]
      by_cases hc : t.kind = d.closer
      · rw [if_pos hc, if_pos hc, hdown, ok_bind]
        by_cases hlast : depth ≤ 1
        · rw [if_pos (by omega), if_pos hlast]
          rfl
        · rw [if_neg (by omega), if_neg hlast, ih (by omega) (by omega) (by omega)]
      · rw [if_neg hc, if_neg hc, ih hpos (by omega) (by omega)]

example : closeFrom .brace 0 0 (ofKinds [.rightBrace]) = .error (.underflow 0 1) := rfl

theorem matchingClose_eq_ok (h : tokens.length < 2 ^ 63) (d : Delimiter) (i : Nat) :
    matchingClose d tokens i = .ok (d.matchingClose tokens i) := by
  unfold matchingClose Delimiter.matchingClose
  by_cases hopen : kindAt tokens i = some d.opener
  · rw [if_pos hopen, if_pos hopen]
    have hlt := lt_length_of_kindAt hopen
    obtain ⟨t, ht, hk⟩ := kindAt_eq_some_iff.mp hopen
    have hlen : (tokens.drop (i + 1)).length = tokens.length - (i + 1) := List.length_drop
    have hnext : add i 1 = .ok (i + 1) := add_eq_ok (by omega)
    have hup : add 0 1 = .ok 1 := rfl
    have hclose : closeFrom d 0 i (tokens.drop i) = .ok (d.closeFrom 0 i (tokens.drop i)) := by
      rw [drop_eq_cons_of_getElem? ht, closeFrom, Delimiter.closeFrom, hnext, ok_bind, if_pos hk,
        if_pos hk, hup, ok_bind, closeFrom_eq_ok d Nat.one_pos (by omega) (by omega)]
    rw [hclose, ok_bind]
    cases d.closeFrom 0 i (tokens.drop i) <;> rfl
  · rw [if_neg hopen, if_neg hopen]
    rfl

theorem bodyFrom_eq_ok {depth i : Nat} {l : List Token} (hdepth : depth + l.length < 2 ^ 64)
    (hi : i + l.length < 2 ^ 64) : bodyFrom depth i l = .ok (Declaration.bodyFrom depth i l) := by
  induction l generalizing depth i with
  | nil => rfl
  | cons t l ih =>
    rw [List.length_cons] at hdepth hi
    have hnext : add i 1 = .ok (i + 1) := add_eq_ok (by omega)
    have hup : add depth 1 = .ok (depth + 1) := add_eq_ok (by omega)
    rw [bodyFrom.eq_def, Declaration.bodyFrom.eq_def]
    dsimp only
    rw [hnext, ok_bind]
    by_cases ho : t.kind = .leftParen
    · rw [if_pos ho, if_pos ho, hup, ok_bind, ih (by omega) (by omega)]
    · rw [if_neg ho, if_neg ho]
      by_cases hc : t.kind = .rightParen
      · rw [if_pos hc, if_pos hc]
        cases depth with
        | zero => rfl
        | succ depth => exact ih (by omega) (by omega)
      · rw [if_neg hc, if_neg hc]
        by_cases hb : t.kind = .leftBrace ∧ depth = 0
        · rw [if_pos hb, if_pos hb]
          rfl
        · rw [if_neg hb, if_neg hb, ih (by omega) (by omega)]

theorem bodyOpen_eq_ok (h : tokens.length < 2 ^ 63) {name : Nat} (hname : name < tokens.length) :
    bodyOpen tokens name = .ok (Declaration.bodyOpen tokens name) := by
  have hlen : (tokens.drop (name + 1)).length = tokens.length - (name + 1) := List.length_drop
  have hfirst : add name 1 = .ok (name + 1) := add_eq_ok (by omega)
  rw [bodyOpen, hfirst, ok_bind, bodyFrom_eq_ok (by omega) (by omega), Declaration.bodyOpen]

theorem examine_eq_ok (h : tokens.length < 2 ^ 63) (keyword : Token) (i : Nat) :
    examine tokens keyword i = .ok (Declaration.examine tokens keyword i) := by
  unfold examine Declaration.examine
  cases Declaration.Kind.ofKeyword? keyword.kind with
  | none => rfl
  | some kind =>
    simp only [nextSignificant_eq_ok h, ok_bind]
    cases hn : Stream.nextSignificant tokens i with
    | none => rfl
    | some n =>
      obtain ⟨name, hname, _⟩ := (nextSignificant_eq_some_iff.mp hn).1.2
      simp only [index_eq_ok hname, ok_bind, bodyOpen_eq_ok h (lt_length_of_getElem? hname),
        matchingClose_eq_ok h, Option.bind_eq_bind, Option.bind_some, hname]
      by_cases hk : name.kind = .name
      · rw [if_pos hk, if_pos hk]
        cases Declaration.bodyOpen tokens n with
        | none => rfl
        | some body =>
          dsimp only
          cases Delimiter.brace.matchingClose tokens body <;> rfl
      · rw [if_neg hk, if_neg hk]
        rfl

theorem examineAll_eq_ok (h : tokens.length < 2 ^ 63) :
    examineAll tokens = .ok (Declaration.examineAll tokens) := by
  unfold examineAll
  rw [mapM_eq_ok fun p _ ↦ examine_eq_ok h p.1 p.2, ok_bind, List.filterMap_map]
  rfl

end Guarded

end ManifestLint
