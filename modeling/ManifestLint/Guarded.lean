namespace ManifestLint

inductive Fault where
  | outOfRange (index length : Nat)
  | overflow (a b : Nat)
  | underflow (a b : Nat)
deriving DecidableEq, Repr

abbrev Guarded (α : Type) := Except Fault α

namespace Guarded

def index {α : Type} (l : List α) (i : Nat) : Guarded α :=
  match l[i]? with
  | some a => .ok a
  | none => .error (.outOfRange i l.length)

/-- A sum of words has to be a word. -/
def add (a b : Nat) : Guarded Nat :=
  if a + b < UInt64.size then .ok (a + b) else .error (.overflow a b)

def sub (a b : Nat) : Guarded Nat :=
  if b ≤ a then .ok (a - b) else .error (.underflow a b)

@[simp]
theorem ok_bind {α β : Type} (a : α) (f : α → Guarded β) : (Except.ok a >>= f) = f a := rfl

@[simp]
theorem error_bind {α β : Type} (fault : Fault) (f : α → Guarded β) :
    (Except.error fault >>= f) = .error fault := rfl

theorem index_eq_ok {α : Type} {l : List α} {i : Nat} {a : α} (h : l[i]? = some a) :
    index l i = .ok a := by
  rw [index, h]

theorem sub_eq_ok {a b : Nat} (h : b ≤ a) : sub a b = .ok (a - b) := if_pos h

theorem mapM_eq_ok {α β : Type} {f : α → Guarded β} {g : α → β} {l : List α}
    (h : ∀ a ∈ l, f a = .ok (g a)) : l.mapM f = .ok (l.map g) := by
  induction l with
  | nil => rfl
  | cons a l ih =>
    rw [List.mapM_cons, h a List.mem_cons_self, ih fun b hb ↦ h b (List.mem_cons_of_mem a hb)]
    rfl

end Guarded

end ManifestLint
