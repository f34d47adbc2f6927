import ManifestLint.Proofs.JsonSkipping

namespace ManifestLint.Json

theorem Sequence.endsNumber {α : Type} {Part : α → List Char → Prop} {close : Char} {ps : List α}
    {cs : List Char} (h : Sequence Part close false ps cs) {rest : List Char}
    (hclose : EndsNumber (close :: rest)) : EndsNumber (cs ++ rest) := by
  cases h with
  | stop hgap =>
    rw [List.append_assoc]
    exact endsNumber_append hgap hclose
  | part hlead _ _ =>
    cases hlead with
    | comma hgap _ =>
      rw [List.append_assoc, List.append_assoc]
      exact endsNumber_append hgap (endsNumber_cons (by decide) _)

theorem Sequence.map {α β : Type} {Part : α → List Char → Prop} {Part' : β → List Char → Prop}
    (f : α → β) (hpart : ∀ p cs, Part p cs → Part' (f p) cs) {close : Char} {first : Bool}
    {ps : List α} {cs : List Char} (h : Sequence Part close first ps cs) :
    Sequence Part' close first (ps.map f) cs := by
  induction h with
  | stop hgap => exact .stop hgap
  | part hlead hp _ ih => exact .part hlead (hpart _ _ hp) ih

def Begins (cs : List Char) : Prop := ∃ c ds, cs = c :: ds ∧ isBlank c = false ∧ c ≠ ']'

theorem Begins.skipBlank_append {gap cs : List Char} (h : Begins cs) (hgap : Blanks gap)
    (rest : List Char) : skipBlank (gap ++ (cs ++ rest)) = cs ++ rest := by
  obtain ⟨c, ds, rfl, hc, -⟩ := h
  exact skipBlank_append_cons hgap hc (ds ++ rest)

theorem TextOf.begins {s : String} {cs : List Char} (h : TextOf s cs) : Begins cs := by
  cases h with
  | mk _ => exact ⟨_, _, rfl, rfl, by decide⟩

theorem begins_digits (n : Nat) : Begins (Decimal.digits n) := by
  obtain ⟨d, ds, hds, hd⟩ := Decimal.exists_digits_eq_cons n
  refine ⟨d, ds, hds, ?_, ne_of_isDigit hd (by decide)⟩
  rw [Bool.eq_false_iff]
  intro hblank
  rcases eq_of_isBlank hblank with rfl | rfl | rfl | rfl <;> exact absurd hd (by decide)

/-- Every such text, with blanks before it or not, is read as `a` up to its end. -/
def Reads {α : Type} (read : Reader α) (Text : List Char → Prop) (a : α) : Prop :=
  ∀ ⦃gap cs rest : List Char⦄, Blanks gap → Text cs → EndsNumber rest →
    read (gap ++ (cs ++ rest)) = .ok (a, rest)

theorem Reads.mono {α : Type} {read : Reader α} {Text Text' : List Char → Prop} {a : α}
    (h : Reads read Text a) (hsub : ∀ cs, Text' cs → Text cs) : Reads read Text' a :=
  fun _ _ _ hgap hcs hrest ↦ h hgap (hsub _ hcs) hrest

theorem Reads.read_append {α : Type} {read : Reader α} {Text : List Char → Prop} {a : α}
    (h : Reads read Text a) {cs rest : List Char} (hcs : Text cs) (hrest : EndsNumber rest) :
    read (cs ++ rest) = .ok (a, rest) := h .nil hcs hrest

theorem text_append {s : String} {parts : List (List Char)}
    (h : List.Forall₂ Spelled s.toList parts) (rest : List Char) :
    text (parts.flatten ++ ['"'] ++ rest) = .ok (s.toList, rest) := by
  rw [List.append_assoc, List.singleton_append, text_forall₂_spelled h]

theorem reads_readText (expected s : String) : Reads (readText expected) (TextOf s) s := by
  intro gap cs rest hgap hcs _
  rw [readText, hcs.begins.skipBlank_append hgap]
  cases hcs with
  | mk hparts =>
    simp only [List.cons_append, text_append hparts, ok_bind, String.ofList_toList]
    rfl

theorem reads_readName {α : Type} {ofName : String → Except Mismatch α} {s : String} {a : α}
    (h : ofName s = .ok a) : Reads (readName ofName) (TextOf s) a := by
  intro gap cs rest hgap hcs _
  rw [readName, hcs.begins.skipBlank_append hgap]
  cases hcs with
  | mk hparts =>
    simp only [List.cons_append, text_append hparts, ok_bind, String.ofList_toList, h, ofMismatch]
    rfl

theorem reads_readWord (n : UInt64) : Reads readWord (· = Decimal.digits n.toNat) n := by
  intro gap cs rest hgap hcs hrest
  subst hcs
  have hnumber := number_digits (Nat.le_pred_of_lt n.toNat_lt) hrest
  rw [readWord, (begins_digits n.toNat).skipBlank_append hgap]
  obtain ⟨d, ds, hds, hd⟩ := Decimal.exists_digits_eq_cons n.toNat
  rw [hds, List.cons_append] at hnumber ⊢
  -- The first digit is no minus sign.
  split
  · next heq =>
    obtain ⟨rfl, -⟩ := List.cons.inj heq
    exact absurd hd (by decide)
  · next heq =>
    obtain ⟨rfl, rfl⟩ := List.cons.inj heq
    rw [if_pos hd, hnumber, ok_bind, UInt64.ofNat_toNat]
    rfl
  · next heq => cases heq

theorem nextElement_lead {first : Bool} {lead : List Char} (hlead : Lead first lead)
    {cs : List Char} (hcs : Begins cs) (rest : List Char) :
    nextElement first (lead ++ (cs ++ rest)) = .ok (true, cs ++ rest) := by
  obtain ⟨c, ds, heq, -, hclose⟩ := id hcs
  cases hlead with
  | first hgap =>
    have hskip := hcs.skipBlank_append hgap rest
    rw [heq, List.cons_append] at hskip ⊢
    simp [nextElement, hskip]
  | @comma gap _ hgap hgap' =>
    have hcomma (cs : List Char) : skipBlank (gap ++ ',' :: cs) = ',' :: cs :=
      skipBlank_append_cons hgap rfl cs
    have hskip := hcs.skipBlank_append hgap' rest
    rw [List.append_assoc, List.cons_append]
    rw [heq, List.cons_append] at hskip ⊢
    simp [nextElement, hcomma, hskip, hclose]

theorem nextElement_close (first : Bool) {gap : List Char} (hgap : Blanks gap) (rest : List Char) :
    nextElement first (gap ++ ']' :: rest) = .ok (false, ']' :: rest) := by
  have hskip : skipBlank (gap ++ ']' :: rest) = _ := skipBlank_append_cons hgap rfl rest
  simp [nextElement, hskip]

section Lists

variable {α β : Type} {item : Reader β} {Part : α → List Char → Prop}

theorem elements_of_sequence (hbegins : ∀ p cs, Part p cs → Begins cs) {first : Bool} {ps : List α}
    {cs : List Char} (hcs : Sequence Part ']' first ps cs) {as : List β}
    (h : List.Forall₂ (fun p a ↦ Reads item (Part p) a) ps as) {fuel : Nat}
    (hfuel : ps.length < fuel) (rest : List Char) :
    elements item fuel first (cs ++ rest) = .ok (as, rest) := by
  -- One unit of fuel goes into every item and one into the bracket.
  induction hcs generalizing as fuel with
  | @stop first gap hgap =>
    cases h
    cases fuel with
    | zero => cases hfuel
    | succ fuel =>
      rw [elements, List.append_assoc, List.singleton_append, nextElement_close first hgap]
      rfl
  | part hlead hpart htail ih =>
    cases h with
    | cons hv hvs =>
    cases fuel with
    | zero => cases hfuel
    | succ fuel =>
      have hends := htail.endsNumber (endsNumber_cons (by decide) rest)
      have hread := hv.read_append hpart hends
      have hrest := ih hvs (Nat.lt_of_succ_lt_succ hfuel)
      rw [elements, List.append_assoc, List.append_assoc, nextElement_lead hlead (hbegins _ _ hpart)]
      simp only [ok_bind, if_true, hread, hrest]
      rfl

theorem reads_readList (hbegins : ∀ p cs, Part p cs → Begins cs) {ps : List α} {as : List β}
    (h : List.Forall₂ (fun p a ↦ Reads item (Part p) a) ps as) :
    Reads (readList item) (ListText Part ps) as := by
  intro gap cs rest hgap hcs _
  cases hcs with
  | mk hseq =>
    rw [readList, List.cons_append, skipBlank_append_cons hgap rfl]
    exact elements_of_sequence hbegins hseq h (hseq.length_lt rest) rest

end Lists

theorem readKey_append {gap key : List Char} {s : String} (hgap : Blanks gap) (hkey : TextOf s key)
    (rest : List Char) : readKey (gap ++ (key ++ rest)) = .ok (s, rest) := by
  rw [readKey, hkey.begins.skipBlank_append hgap]
  cases hkey with
  | mk hparts =>
    simp only [List.cons_append, text_append hparts, ok_bind, String.ofList_toList]
    rfl

theorem nextKey_lead {first : Bool} {lead key : List Char} {s : String} (hlead : Lead first lead)
    (hkey : TextOf s key) (rest : List Char) :
    nextKey first (lead ++ (key ++ rest)) = .ok (some s, rest) := by
  cases hlead with
  | first hgap =>
    have hskip := hkey.begins.skipBlank_append hgap rest
    have hread := readKey_append .nil hkey rest
    rw [List.nil_append] at hread
    cases hkey with
    | mk _ =>
      simp only [List.cons_append, List.append_assoc, List.nil_append] at hskip hread ⊢
      simp [nextKey, hskip, nextKey.key, hread]
  | @comma gap _ hgap hgap' =>
    have hcomma (cs : List Char) : skipBlank (gap ++ ',' :: cs) = ',' :: cs :=
      skipBlank_append_cons hgap rfl cs
    have hread := readKey_append hgap' hkey rest
    rw [List.append_assoc, List.cons_append]
    simp [nextKey, hcomma, nextKey.key, hread]

theorem nextKey_close (first : Bool) {gap : List Char} (hgap : Blanks gap) (rest : List Char) :
    nextKey first (gap ++ '}' :: rest) = .ok (none, '}' :: rest) := by
  have hskip : skipBlank (gap ++ '}' :: rest) = _ := skipBlank_append_cons hgap rfl rest
  simp [nextKey, hskip]

/-- The entries take what has been read of a record from one state to another: each belongs to a
field that is not set yet, and its texts are read there, or it belongs to no field and is passed
over. -/
inductive Takes {σ : Type} (fields : List (Field σ)) : σ → List Entry → σ → Prop
  | nil (s : σ) : Takes fields s [] s
  | field {s t u : σ} {e : Entry} {es : List Entry} {field : Field σ} :
      fields.find? (·.key == e.1) = some field → field.isSet s = false →
      Reads (field.read s) e.2 t → Takes fields t es u → Takes fields s (e :: es) u
  | other {s t : σ} {e : Entry} {es : List Entry} :
      fields.find? (·.key == e.1) = none → (∀ cs, e.2 cs → WellFormed .value cs) →
      Takes fields s es t → Takes fields s (e :: es) t

theorem members_of_sequence {σ : Type} {fields : List (Field σ)} {es : List Entry} {first : Bool}
    {cs : List Char} (hcs : Sequence EntryText '}' first es cs) {s t : σ} (h : Takes fields s es t)
    {fuel : Nat} (hfuel : es.length < fuel) (rest : List Char) :
    members fields fuel first s (cs ++ rest) = .ok (t, '}' :: rest) := by
  induction hcs generalizing s fuel with
  | @stop first gap hgap =>
    cases h
    cases fuel with
    | zero => cases hfuel
    | succ fuel =>
      rw [members, List.append_assoc, List.singleton_append, nextKey_close first hgap]
      rfl
  | part hlead hpart htail ih =>
    cases fuel with
    | zero => cases hfuel
    | succ fuel =>
      cases hpart with
      | mk hkey hgap hgap' hv =>
        -- The blanks behind the colon are left to what reads the value or passes over it.
        have hends := htail.endsNumber (endsNumber_cons (by decide) rest)
        have hfuel := Nat.lt_of_succ_lt_succ hfuel
        simp only [List.append_assoc, List.cons_append] at hends ⊢
        rw [members, nextKey_lead hlead hkey]
        cases h with
        | field hfield hset hreads htakes =>
          have hread := hreads hgap' hv hends
          have hrest := ih htakes hfuel
          simp only [ok_bind, hfield, hset, skipColon_append hgap, hread, hrest]
          rfl
        | other hfield hvalue htakes =>
          have hskip := skipValue_append (hvalue _ hv) hgap' hends
          have hrest := ih htakes hfuel
          simp only [ok_bind, hfield, skipColon_append hgap, hskip, hrest]

theorem readRecord_of_takes {σ α : Type} {shape : Shape σ α} {es : List Entry} {s : σ} {a : α}
    (h : Takes shape.fields shape.start es s) (hfinish : shape.finish s = .ok a)
    {gap cs : List Char} (hgap : Blanks gap) (hcs : Sequence EntryText '}' true es cs)
    (rest : List Char) : readRecord shape (gap ++ ('{' :: cs ++ rest)) = .ok (a, rest) := by
  have hmembers := members_of_sequence hcs h (hcs.length_lt rest) rest
  rw [readRecord, List.cons_append, skipBlank_append_cons hgap rfl]
  simp only [hmembers, ok_bind, hfinish, ofMismatch]
  rfl

theorem reads_field {σ α : Type} {key : String} {optional : Bool} {get : σ → Option α}
    {set : σ → α → σ} {read : Reader α} {Text : List Char → Prop} {a : α} (h : Reads read Text a)
    (s : σ) : Reads ((Field.of key optional get set read).read s) Text (set s a) := by
  intro gap cs rest hgap hcs hrest
  simp only [Field.of, h hgap hcs hrest, ok_bind]
  rfl

def fieldKeys {σ : Type} (fields : List (Field σ)) (es : List Entry) : List String :=
  (es.map (·.1)).filter (· ∈ fields.map (·.key))

def Adds {σ : Type} (fields : List (Field σ)) (part : List String → σ) (e : Entry) : Prop :=
  ∃ field, fields.find? (·.key == e.1) = some field ∧ ∀ keys, e.1 ∉ keys →
    field.isSet (part keys) = false ∧ Reads (field.read (part keys)) e.2 (part (e.1 :: keys))

section Records

variable {σ α : Type} {part : List String → σ}

theorem Adds.mem_keys {fields : List (Field σ)} {e : Entry} (h : Adds fields part e) :
    e.1 ∈ fields.map (·.key) := by
  obtain ⟨field, hfield, -⟩ := h
  have hkey : field.key = e.1 := by simpa using List.find?_some hfield
  exact hkey ▸ List.mem_map_of_mem (List.mem_of_find?_eq_some hfield)

theorem adds_field {fields : List (Field σ)} {β : Type} {key : String} {optional : Bool}
    {get : σ → Option β} {set : σ → β → σ} {read : Reader β}
    {Text : List Char → Prop} {a : β}
    (hfield : fields.find? (·.key == key) = some (.of key optional get set read))
    (hget : ∀ keys, key ∉ keys → get (part keys) = none)
    (hset : ∀ keys, set (part keys) a = part (key :: keys)) (h : Reads read Text a) :
    Adds fields part (key, Text) := by
  refine ⟨_, hfield, fun keys hkey ↦ ⟨?_, ?_⟩⟩
  · exact congrArg Option.isSome (hget keys hkey)
  · rw [← hset]
    exact reads_field h (part keys)

theorem fieldKeys_cons_of_mem {fields : List (Field σ)} {e : Entry}
    (h : e.1 ∈ fields.map (·.key)) (es : List Entry) :
    fieldKeys fields (e :: es) = e.1 :: fieldKeys fields es :=
  List.filter_cons_of_pos (by simpa using h)

theorem fieldKeys_cons_of_not_mem {fields : List (Field σ)} {e : Entry}
    (h : e.1 ∉ fields.map (·.key)) (es : List Entry) :
    fieldKeys fields (e :: es) = fieldKeys fields es :=
  List.filter_cons_of_neg (by simpa using h)

/-- Entries in any order, with others between them, are taken as long as no field comes twice. -/
theorem takes_of_adds {fields : List (Field σ)} {es : List Entry}
    (hfields : ∀ e ∈ es, e.1 ∈ fields.map (·.key) → Adds fields part e)
    (hothers : ∀ e ∈ es, e.1 ∉ fields.map (·.key) → ∀ cs, e.2 cs → WellFormed .value cs)
    {keys : List String} (hkeys : (fieldKeys fields es ++ keys).Nodup) :
    Takes fields (part keys) es (part ((fieldKeys fields es).reverse ++ keys)) := by
  induction es generalizing keys with
  | nil => exact .nil _
  | cons e es ih =>
    rw [List.forall_mem_cons] at hfields hothers
    by_cases hkey : e.1 ∈ fields.map (·.key)
    · rw [fieldKeys_cons_of_mem hkey] at hkeys ⊢
      obtain ⟨field, hfield, hadds⟩ := hfields.1 hkey
      have hnew : e.1 ∉ keys :=
        fun hmem ↦ (List.nodup_cons.1 hkeys).1 (List.mem_append_right _ hmem)
      have hrest := ih hfields.2 hothers.2 (List.perm_middle.nodup_iff.2 hkeys)
      rw [List.reverse_cons, List.append_assoc, List.singleton_append]
      exact .field hfield (hadds keys hnew).1 (hadds keys hnew).2 hrest
    · rw [fieldKeys_cons_of_not_mem hkey] at hkeys ⊢
      have hnone : fields.find? (·.key == e.1) = none := by
        rw [List.find?_eq_none]
        intro field hfield heq
        exact hkey (eq_of_beq heq ▸ List.mem_map_of_mem hfield)
      exact .other hnone (hothers.1 hkey) (ih hfields.2 hothers.2 hkeys)

theorem fieldKeys_perm {fields : List (Field σ)} {entries all : List Entry} {others : List String}
    (hentries : ∀ e ∈ entries, e.1 ∈ fields.map (·.key))
    (hothers : ∀ key ∈ others, key ∉ fields.map (·.key))
    (h : all.Perm (entries ++ others.map fun key ↦ (key, WellFormed .value))) :
    (fieldKeys fields all).Perm (entries.map (·.1)) := by
  have hperm := (h.map (·.1)).filter (· ∈ fields.map (·.key))
  have hnone : others.filter (· ∈ fields.map (·.key)) = [] := by
    rw [List.filter_eq_nil_iff]
    exact fun key hkey ↦ by simpa using hothers key hkey
  have hall : (entries.map (·.1)).filter (· ∈ fields.map (·.key)) = entries.map (·.1) := by
    rw [List.filter_eq_self]
    intro key hkey
    obtain ⟨e, he, rfl⟩ := List.mem_map.1 hkey
    exact decide_eq_true (hentries e he)
  rw [List.map_append, List.map_map, List.filter_append, hall] at hperm
  have hid : ((fun e : Entry ↦ e.1) ∘ fun key ↦ (key, WellFormed .value)) = id := rfl
  rw [hid, List.map_id, hnone, List.append_nil] at hperm
  exact hperm

theorem reads_readRecord (part : List String → σ) {shape : Shape σ α} {entries : List Entry} {a : α}
    (hstart : part [] = shape.start) (hkeys : (entries.map (·.1)).Nodup)
    (hadds : ∀ e ∈ entries, Adds shape.fields part e)
    (hfinish : ∀ keys, (∀ e ∈ entries, e.1 ∈ keys) → shape.finish (part keys) = .ok a) :
    Reads (readRecord shape) (ObjectText (shape.fields.map (·.key)) entries) a := by
  intro gap cs rest hgap hcs _
  cases hcs with
  | @mk others all cs hothers hperm hseq =>
    have hmem (e : Entry) :
        e ∈ all ↔ e ∈ entries ∨ ∃ key ∈ others, (key, WellFormed .value) = e := by
      rw [hperm.mem_iff, List.mem_append, List.mem_map]
    have hfieldKeys := fieldKeys_perm (fun e he ↦ (hadds e he).mem_keys) hothers hperm
    have hfields : ∀ e ∈ all, e.1 ∈ shape.fields.map (·.key) → Adds shape.fields part e := by
      intro e he hkey
      obtain he | ⟨key, hother, rfl⟩ := (hmem e).1 he
      · exact hadds e he
      · exact absurd hkey (hothers key hother)
    have hvalues : ∀ e ∈ all, e.1 ∉ shape.fields.map (·.key) → ∀ cs, e.2 cs →
        WellFormed .value cs := by
      intro e he hkey
      obtain he | ⟨key, -, rfl⟩ := (hmem e).1 he
      · exact absurd (hadds e he).mem_keys hkey
      · exact fun _ hcs ↦ hcs
    have hnodup : (fieldKeys shape.fields all ++ []).Nodup := by
      rw [List.append_nil]
      exact hfieldKeys.nodup_iff.2 hkeys
    have htakes := takes_of_adds hfields hvalues hnodup
    rw [hstart] at htakes
    refine readRecord_of_takes htakes (hfinish _ fun e he ↦ ?_) hgap hseq rest
    rw [List.append_nil, List.mem_reverse, hfieldKeys.mem_iff]
    exact List.mem_map_of_mem he

end Records

theorem parse_of_reads {α : Type} {read : Reader α} {Text : List Char → Prop} {a : α}
    (h : Reads read Text a) {gap cs tail : List Char} (hgap : Blanks gap) (hcs : Text cs)
    (htail : Blanks tail) : parse read (String.ofList (gap ++ (cs ++ tail))) = .ok a := by
  have hends := endsNumber_append htail endsNumber_nil
  have hskip := skipBlank_append htail []
  rw [List.append_nil] at hends hskip
  rw [parse, String.toList_ofList, h hgap hcs hends]
  simp only [ok_bind, hskip]
  rfl

theorem Written.exists_cons {v : Value} {cs : List Char} (h : Written v cs) :
    ∃ c ds, cs = c :: ds ∧ isBlank c = false ∧ c ≠ ']' ∧ c ≠ 'n' := by
  cases h with
  | text s => exact ⟨'"', _, rfl, rfl, by decide, by decide⟩
  | word n =>
    obtain ⟨c, ds, heq, hblank, hclose⟩ := begins_digits n.toNat
    have hc : c.isDigit = true := Decimal.isDigit_of_mem_digits (heq ▸ List.mem_cons_self)
    exact ⟨c, ds, heq, hblank, hclose, ne_of_isDigit hc (by decide)⟩
  | list _ => exact ⟨'[', _, rfl, rfl, by decide, by decide⟩
  | object _ => exact ⟨'{', _, rfl, rfl, by decide, by decide⟩

theorem Written.begins {v : Value} {cs : List Char} (h : Written v cs) : Begins cs := by
  obtain ⟨c, ds, heq, hblank, hclose, -⟩ := h.exists_cons
  exact ⟨c, ds, heq, hblank, hclose⟩

def Accepts {α : Type} (read : Reader α) (v : Value) (a : α) : Prop :=
  ∀ ⦃gap cs rest : List Char⦄, Blanks gap → Written v cs → EndsNumber rest →
    read (gap ++ (cs ++ rest)) = .ok (a, rest)

theorem Reads.accepts {α : Type} {read : Reader α} {Text : List Char → Prop} {v : Value} {a : α}
    (h : Reads read Text a) (hsub : ∀ cs, Written v cs → Text cs) : Accepts read v a := h.mono hsub

theorem Accepts.reads {α : Type} {read : Reader α} {v : Value} {a : α} (h : Accepts read v a) :
    Reads read (Written v) a := h

theorem Written.textOf {s : String} {cs : List Char} (h : Written (.text s) cs) : TextOf s cs := by
  cases h
  exact textOf_writeText s

theorem accepts_readText (expected s : String) : Accepts (readText expected) (.text s) s :=
  (reads_readText expected s).accepts fun _ ↦ Written.textOf

theorem accepts_readWord (n : UInt64) : Accepts readWord (.word n) n := by
  refine (reads_readWord n).accepts fun cs hcs ↦ ?_
  cases hcs
  rfl

theorem accepts_readName {α : Type} {ofName : String → Except Mismatch α} {s : String} {a : α}
    (h : ofName s = .ok a) : Accepts (readName ofName) (.text s) a :=
  (reads_readName h).accepts fun _ ↦ Written.textOf

theorem accepts_readOptional {α : Type} {read : Reader α} {v : Value} {a : α}
    (h : Accepts read v a) : Accepts (readOptional read) v (some a) := by
  intro gap cs rest hgap hcs hrest
  have hread := h .nil hcs hrest
  rw [readOptional, hcs.begins.skipBlank_append hgap]
  obtain ⟨c, ds, rfl, -, -, hn⟩ := hcs.exists_cons
  rw [List.nil_append] at hread
  split
  · next heq => exact absurd (List.cons.inj heq).1 hn
  · rw [hread]
    rfl

theorem accepts_readList {α : Type} {item : Reader α} {vs : List Value} {as : List α}
    (h : List.Forall₂ (Accepts item) vs as) : Accepts (readList item) (.list vs) as := by
  refine (reads_readList (fun _ _ ↦ Written.begins) h).accepts fun cs hcs ↦ ?_
  cases hcs with
  | list hseq => exact .mk hseq

theorem accepts_readList_map {α : Type} {item : Reader α} {json : α → Value}
    (h : ∀ a, Accepts item (json a) a) (as : List α) :
    Accepts (readList item) (.list (as.map json)) as :=
  accepts_readList (List.forall₂_map_left_iff.2 (List.forall₂_same.2 fun a _ ↦ h a))

/-- The members take what has been read of a record from one state to another: each of them belongs
to a field that is not set yet, and its value is accepted there. -/
inductive Fills {σ : Type} (fields : List (Field σ)) : σ → List (String × Value) → σ → Prop
  | nil (s : σ) : Fills fields s [] s
  | cons {s t u : σ} {key : String} {v : Value} {ms : List (String × Value)} {field : Field σ} :
      fields.find? (·.key == key) = some field → field.isSet s = false →
      Accepts (field.read s) v t → Fills fields t ms u → Fills fields s ((key, v) :: ms) u

def entry (m : String × Value) : Entry := (m.1, Written m.2)

theorem Member.entryText {m : String × Value} {cs : List Char} (h : Member Written m cs) :
    EntryText (entry m) cs := by
  cases h with
  | mk hgap hgap' hv => exact .mk (textOf_writeText _) hgap hgap' hv

theorem Fills.takes {σ : Type} {fields : List (Field σ)} {s t : σ} {ms : List (String × Value)}
    (h : Fills fields s ms t) : Takes fields s (ms.map entry) t := by
  induction h with
  | nil s => exact .nil s
  | cons hfield hset hread _ ih => exact .field hfield hset hread ih

theorem accepts_readRecord {σ α : Type} {shape : Shape σ α} {ms : List (String × Value)} {a : α}
    (s : σ) (h : Fills shape.fields shape.start ms s) (hfinish : shape.finish s = .ok a) :
    Accepts (readRecord shape) (.object ms) a := by
  intro gap cs rest hgap hcs _
  cases hcs with
  | object hseq =>
    have hentries : Sequence EntryText '}' true (ms.map entry) _ :=
      hseq.map entry fun _ _ ↦ Member.entryText
    exact readRecord_of_takes h.takes hfinish hgap hentries rest

theorem accepts_field {σ α : Type} {key : String} {optional : Bool} {get : σ → Option α}
    {set : σ → α → σ} {read : Reader α} {v : Value} {a : α} (h : Accepts read v a) (s : σ) :
    Accepts ((Field.of key optional get set read).read s) v (set s a) := reads_field h s

theorem parse_of_accepts {α : Type} {read : Reader α} {v : Value} {a : α} (h : Accepts read v a)
    {cs tail : List Char} (hcs : Written v cs) (htail : Blanks tail) :
    parse read (String.ofList (cs ++ tail)) = .ok a := by
  have hparse := parse_of_reads h.reads .nil hcs htail
  rwa [List.nil_append] at hparse

end ManifestLint.Json
