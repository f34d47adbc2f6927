import ManifestLint.Json.Read
import ManifestLint.Json.Write
import Mathlib.Tactic.Common

namespace ManifestLint.Json

@[elab_as_elim]
theorem Value.nested_induction {P : Value → Prop} (text : ∀ s, P (.text s))
    (word : ∀ n, P (.word n)) (list : ∀ items, (∀ v ∈ items, P v) → P (.list items))
    (object : ∀ members, (∀ m ∈ members, P m.2) → P (.object members)) : ∀ v : Value, P v
  | .text s => text s
  | .word n => word n
  | .list items => list items fun v _ ↦ nested_induction text word list object v
  | .object members => object members fun m _ ↦ nested_induction text word list object m.2
decreasing_by
  · have := List.sizeOf_lt_of_mem ‹v ∈ items›
    simp only [Value.list.sizeOf_spec]
    omega
  · have := List.sizeOf_lt_of_mem ‹m ∈ members›
    have hsnd : sizeOf m = 1 + sizeOf m.1 + sizeOf m.2 := rfl
    simp only [Value.object.sizeOf_spec]
    omega

def Blanks (cs : List Char) : Prop := ∀ c ∈ cs, isBlank c = true

/-- What stands before a part of a sequence: blanks, and a comma unless the part is the first. -/
inductive Lead : Bool → List Char → Prop
  | first {gap : List Char} : Blanks gap → Lead true gap
  | comma {gap gap' : List Char} : Blanks gap → Blanks gap' → Lead false (gap ++ ',' :: gap')

/-- The text of the parts of a list or an object up to the bracket that closes it; `first` says that
no part has been before. -/
inductive Sequence {α : Type} (Part : α → List Char → Prop) (close : Char) :
    Bool → List α → List Char → Prop
  | stop {first : Bool} {gap : List Char} :
      Blanks gap → Sequence Part close first [] (gap ++ [close])
  | part {first : Bool} {lead cs ds : List Char} {p : α} {ps : List α} :
      Lead first lead → Part p cs → Sequence Part close false ps ds →
      Sequence Part close first (p :: ps) (lead ++ (cs ++ ds))

inductive Member (Part : Value → List Char → Prop) : String × Value → List Char → Prop
  | mk {key : String} {v : Value} {gap gap' cs : List Char} :
      Blanks gap → Blanks gap' → Part v cs →
      Member Part (key, v) (writeText key ++ (gap ++ ':' :: (gap' ++ cs)))

inductive Written : Value → List Char → Prop
  | text (s : String) : Written (.text s) (writeText s)
  | word (n : UInt64) : Written (.word n) (Decimal.digits n.toNat)
  | list {items : List Value} {cs : List Char} :
      Sequence Written ']' true items cs → Written (.list items) ('[' :: cs)
  | object {members : List (String × Value)} {cs : List Char} :
      Sequence (Member Written) '}' true members cs → Written (.object members) ('{' :: cs)

theorem Lead.append_blanks {first : Bool} {lead gap : List Char} (h : Lead first lead)
    (hgap : Blanks gap) : Lead first (lead ++ gap) := by
  cases h with
  | first hlead => exact .first (List.forall_mem_append.2 ⟨hlead, hgap⟩)
  | comma hlead hlead' =>
    rw [List.append_assoc, List.cons_append]
    exact .comma hlead (List.forall_mem_append.2 ⟨hlead', hgap⟩)

theorem Blanks.nil : Blanks [] := List.forall_mem_nil _

theorem Member.of_written {m : String × Value} {gap cs : List Char} (hgap : Blanks gap)
    (h : Written m.2 cs) : Member Written m (writeText m.1 ++ (':' :: gap) ++ cs) := by
  have hm : Member Written (m.1, m.2) _ := .mk .nil hgap h
  simpa using hm

theorem blanks_lineBreak (depth : Nat) : Blanks (lineBreak depth) := by
  intro c hc
  rcases List.mem_cons.1 hc with rfl | hc
  · rfl
  · rw [List.eq_of_mem_replicate hc]
    rfl

section

variable {α : Type} {Part : α → List Char → Prop} {close : Char}

theorem Sequence.length_le {first : Bool} {ps : List α} {cs : List Char}
    (h : Sequence Part close first ps cs) : ps.length + (!first).toNat ≤ cs.length := by
  induction h with
  | @stop first gap hgap => cases first <;> simp
  | part hlead _ _ ih =>
    simp only [List.length_cons, List.length_append, Bool.not_false, Bool.toNat_true] at ih ⊢
    cases hlead with
    | first hgap =>
      simp only [Bool.not_true, Bool.toNat_false]
      omega
    | comma hgap _ =>
      simp only [List.length_append, List.length_cons, Bool.not_false, Bool.toNat_true]
      omega

theorem Sequence.length_lt {first : Bool} {ps : List α} {cs : List Char}
    (h : Sequence Part close first ps cs) (rest : List Char) :
    ps.length < (cs ++ rest).length + 1 := by
  have := h.length_le
  rw [List.length_append]
  omega

theorem sequence_lead_intercalate {gap last : List Char} (hgap : Blanks gap) (hlast : Blanks last)
    {text : α → List Char} {first : Bool} {lead : List Char} (hlead : Lead first lead) {p : α}
    {ps : List α} (h : ∀ q ∈ p :: ps, Part q (text q)) :
    Sequence Part close first (p :: ps)
      (lead ++ ([','].intercalate ((p :: ps).map fun q ↦ gap ++ text q) ++ (last ++ [close]))) := by
  have hp : Part p (text p) := h p List.mem_cons_self
  -- The blanks before a part join its lead; from the second part on, the lead is the comma.
  induction ps generalizing first lead p with
  | nil =>
    have hend : Sequence Part close false [] (last ++ [close]) := .stop hlast
    have hpart := Sequence.part (hlead.append_blanks hgap) hp hend
    simpa using hpart
  | cons q ps ih =>
    have htail : ∀ r ∈ q :: ps, Part r (text r) := fun r hr ↦ h r (List.mem_cons_of_mem p hr)
    have hrest := ih (.comma .nil .nil) htail (htail q List.mem_cons_self)
    have hpart := Sequence.part (hlead.append_blanks hgap) hp hrest
    simpa using hpart

theorem eq_intercalate {f : List α → List Char} {part : α → List Char} (hnil : f [] = [])
    (hone : ∀ p, f [p] = part p)
    (hcons : ∀ p q ps, f (p :: q :: ps) = part p ++ [','] ++ f (q :: ps)) (ps : List α) :
    f ps = [','].intercalate (ps.map part) := by
  induction ps with
  | nil => exact hnil
  | cons p ps ih =>
    cases ps with
    | nil => simp [hone]
    | cons q ps => simp [hcons, ih]

theorem sequence_intercalate {gap last : List Char} (hgap : Blanks gap) (hlast : Blanks last)
    {text : α → List Char} {ps : List α} (h : ∀ p ∈ ps, Part p (text p)) :
    Sequence Part close true ps
      ([','].intercalate (ps.map fun p ↦ gap ++ text p) ++ (last ++ [close])) := by
  cases ps with
  | nil => exact .stop hlast
  | cons p ps => exact sequence_lead_intercalate hgap hlast (.first .nil) h

end

theorem writeItems_eq (items : List Value) :
    writeItems items = [','].intercalate (items.map write) :=
  eq_intercalate rfl (fun _ ↦ rfl) (fun _ _ _ ↦ rfl) items

theorem writeMembers_eq (members : List (String × Value)) :
    writeMembers members =
      [','].intercalate (members.map fun m ↦ writeText m.1 ++ [':'] ++ write m.2) :=
  eq_intercalate rfl (fun _ ↦ rfl) (fun _ _ _ ↦ rfl) members

theorem prettyItems_eq (depth : Nat) (items : List Value) :
    prettyItems depth items =
      [','].intercalate (items.map fun v ↦ lineBreak depth ++ writePretty depth v) :=
  eq_intercalate rfl (fun _ ↦ rfl) (fun _ _ _ ↦ rfl) items

theorem prettyMembers_eq (depth : Nat) (members : List (String × Value)) :
    prettyMembers depth members =
      [','].intercalate (members.map fun m ↦
        lineBreak depth ++ (writeText m.1 ++ [':', ' '] ++ writePretty depth m.2)) := by
  refine eq_intercalate rfl (fun _ ↦ ?_) (fun _ _ _ ↦ ?_) members
  · simp [prettyMembers]
  · simp [prettyMembers]

theorem written_write (v : Value) : Written v (write v) := by
  induction v using Value.nested_induction with
  | text s => exact .text s
  | word n => exact .word n
  | list items ih =>
    have h : Sequence Written ']' true items _ := sequence_intercalate .nil .nil ih
    rw [write, writeItems_eq, List.append_assoc]
    exact .list h
  | object members ih =>
    have h : Sequence (Member Written) '}' true members _ :=
      sequence_intercalate .nil .nil fun m hm ↦ .of_written .nil (ih m hm)
    rw [write, writeMembers_eq, List.append_assoc]
    exact .object h

theorem written_writePretty (depth : Nat) (v : Value) : Written v (writePretty depth v) := by
  induction v using Value.nested_induction generalizing depth with
  | text s => exact .text s
  | word n => exact .word n
  | list items ih =>
    cases items with
    | nil => exact .list (.stop .nil)
    | cons v rest =>
      have h : Sequence Written ']' true (v :: rest) _ :=
        sequence_intercalate (blanks_lineBreak (depth + 1)) (blanks_lineBreak depth)
          fun w hw ↦ ih w hw (depth + 1)
      rw [writePretty, prettyItems_eq, List.append_assoc, List.append_assoc]
      exact .list h
  | object members ih =>
    cases members with
    | nil => exact .object (.stop .nil)
    | cons m rest =>
      have hblank : Blanks [' '] := by simp [Blanks, isBlank]
      have h : Sequence (Member Written) '}' true (m :: rest) _ :=
        sequence_intercalate (blanks_lineBreak (depth + 1)) (blanks_lineBreak depth)
          fun n hn ↦ .of_written hblank (ih n hn (depth + 1))
      rw [writePretty, prettyMembers_eq, List.append_assoc, List.append_assoc]
      exact .object h

end ManifestLint.Json
