import ManifestLint.Manifest
import ManifestLint.Proofs.JsonReading

namespace ManifestLint

open Json

theorem Decimal.digits_eq_toDigits (n : Nat) : digits n = Nat.toDigits 10 n := by
  have hdigit : ∀ d < 10, digitChar d = Nat.digitChar d := by decide
  fun_induction digits n with
  | case1 n hn => rw [Nat.toDigits_of_lt_base hn, hdigit n hn]
  | case2 n hn ih =>
    rw [Nat.toDigits_of_base_le (by decide) (Nat.le_of_not_lt hn), ih,
      hdigit _ (Nat.mod_lt n (by decide))]

namespace Token

/-- The names of kinds in dumps. Every kind has its own, and `other` has all that are left. -/
inductive Kind.Named : Kind → String → Prop
  | own {k : Kind} : k ≠ .other → Named k k.label
  | unknown {name : String} : name ∉ known.map label → Named .other name

theorem Kind.Named.ofLabel_eq {k : Kind} {name : String} (h : Named k name) : ofLabel name = k := by
  cases h with
  | own _ => exact ofLabel_label k
  | unknown hname =>
    have hnone : known.find? (·.label == name) = none := by
      rw [List.find?_eq_none]
      intro k hk heq
      exact hname (eq_of_beq heq ▸ List.mem_map_of_mem hk)
    rw [ofLabel, hnone, Option.getD_none]

inductive KindText (k : Kind) : List Char → Prop
  | mk {name : String} {cs : List Char} : k.Named name → TextOf name cs → KindText k cs

def WordText (n : UInt64) (cs : List Char) : Prop := cs = Nat.toDigits 10 n.toNat

def TokenText (t : Token) : List Char → Prop :=
  ObjectText ["kind", "text", "line", "column"] [
    ("kind", KindText t.kind), ("text", TextOf t.text), ("line", WordText t.line),
    ("column", WordText t.column)]

theorem reads_readKind (k : Kind) : Reads readKind (KindText k) k := by
  intro gap cs rest hgap hcs hrest
  cases hcs with
  | mk hname hcs =>
    have hread : Reads readKind (TextOf _) k := reads_readName (by rw [hname.ofLabel_eq])
    exact hread hgap hcs hrest

theorem reads_wordText (n : UInt64) : Reads readWord (WordText n) n :=
  (reads_readWord n).mono fun _ hcs ↦ hcs.trans (Decimal.digits_eq_toDigits _).symm

/-- What has been read of the token once the fields with some keys have been. -/
def draft (t : Token) (keys : List String) : Draft where
  kind := if "kind" ∈ keys then some t.kind else none
  text := if "text" ∈ keys then some t.text else none
  line := if "line" ∈ keys then some t.line else none
  column := if "column" ∈ keys then some t.column else none

theorem reads_tokenText (t : Token) : Reads (readRecord shape) (TokenText t) t := by
  refine reads_readRecord t.draft rfl (by simp) ?_ ?_
  · simp only [List.forall_mem_cons]
    refine ⟨?_, ?_, ?_, ?_, List.forall_mem_nil _⟩
    · exact adds_field rfl (fun _ hkey ↦ if_neg hkey) (fun _ ↦ by simp [draft]) (reads_readKind t.kind)
    · exact adds_field rfl (fun _ hkey ↦ if_neg hkey) (fun _ ↦ by simp [draft]) (reads_readText _ t.text)
    · exact adds_field rfl (fun _ hkey ↦ if_neg hkey) (fun _ ↦ by simp [draft]) (reads_wordText t.line)
    · exact adds_field rfl (fun _ hkey ↦ if_neg hkey) (fun _ ↦ by simp [draft]) (reads_wordText t.column)
  · intro keys hkeys
    simp only [List.forall_mem_cons] at hkeys
    obtain ⟨hkind, htext, hline, hcolumn, -⟩ := hkeys
    simp only [draft, hkind, htext, hline, hcolumn, if_true]
    rfl

end Token

theorem Json.ObjectText.begins {reserved : List String} {entries : List Entry} {cs : List Char}
    (h : ObjectText reserved entries cs) : Begins cs := by
  cases h with
  | mk _ _ _ => exact ⟨_, _, rfl, rfl, by decide⟩

namespace Manifest

def entries (path : Option String) (tokens : List Token) : List Entry :=
  path.toList.map (fun p ↦ ("path", TextOf p)) ++ [("tokens", ListText Token.TokenText tokens)]

inductive DumpText (path : Option String) (tokens : List Token) : List Char → Prop
  | mk {gap cs gap' : List Char} : Blanks gap →
      ObjectText ["path", "tokens"] (entries path tokens) cs → Blanks gap' →
      DumpText path tokens (gap ++ (cs ++ gap'))

def draft (path : Option String) (tokens : List Token) (keys : List String) : Draft where
  path := if "path" ∈ keys then path else none
  tokens := if "tokens" ∈ keys then some tokens else none

theorem reads_tokens (tokens : List Token) :
    Reads (readList (readRecord Token.shape)) (ListText Token.TokenText tokens) tokens :=
  reads_readList (fun _ _ ↦ ObjectText.begins)
    (List.forall₂_same.2 fun t _ ↦ t.reads_tokenText)

theorem adds_tokens (path : Option String) (tokens : List Token) :
    Adds shape.fields (draft path tokens) ("tokens", ListText Token.TokenText tokens) :=
  adds_field rfl (fun _ hkey ↦ if_neg hkey) (fun _ ↦ by simp [draft]) (reads_tokens tokens)

theorem adds_path (path : String) (tokens : List Token) :
    Adds shape.fields (draft path tokens) ("path", TextOf path) :=
  adds_field rfl (fun _ hkey ↦ if_neg hkey) (fun _ ↦ by simp [draft]) (reads_readText _ path)

theorem adds_entries (path : Option String) (tokens : List Token) :
    ∀ e ∈ entries path tokens, Adds shape.fields (draft path tokens) e := by
  intro e he
  rcases List.mem_append.1 he with he | he
  · obtain ⟨p, hp, rfl⟩ := List.mem_map.1 he
    obtain rfl := Option.mem_toList.1 hp
    exact adds_path p tokens
  · rw [List.mem_singleton.1 he]
    exact adds_tokens path tokens

theorem draft_eq {path : Option String} {tokens : List Token} {keys : List String}
    (h : ∀ e ∈ entries path tokens, e.1 ∈ keys) : draft path tokens keys = ⟨path, some tokens⟩ := by
  have htokens : "tokens" ∈ keys := h _ (List.mem_append_right _ List.mem_cons_self)
  cases path with
  | none => simp only [draft, htokens, if_true, ite_self]
  | some p =>
    have hpath : "path" ∈ keys := h ("path", TextOf p) (List.mem_append_left _ List.mem_cons_self)
    simp only [draft, hpath, htokens, if_true]

theorem reads_entries (path : Option String) (tokens : List Token) :
    Reads (readRecord shape) (ObjectText ["path", "tokens"] (entries path tokens))
      ⟨path.getD "", tokens⟩ := by
  have hkeys : ((entries path tokens).map (·.1)).Nodup := by cases path <;> simp [entries]
  refine reads_readRecord (draft path tokens) rfl hkeys (adds_entries path tokens) fun keys h ↦ ?_
  rw [draft_eq h]
  rfl

theorem ofDump_ofList {path : Option String} {tokens : List Token} {cs : List Char}
    (h : DumpText path tokens cs) : ofDump (String.ofList cs) = .ok ⟨path.getD "", tokens⟩ := by
  cases h with
  | mk hgap hobject hgap' => exact parse_of_reads (reads_entries path tokens) hgap hobject hgap'

/-- Whatever the order and the spelling of its parts and whatever else stands between them, a dump
is read as the manifest that it is of. Without a path in it the path is empty. -/
theorem ofDump_of_dumpText {path : Option String} {tokens : List Token} {s : String}
    (h : DumpText path tokens s.toList) : ofDump s = .ok ⟨path.getD "", tokens⟩ := by
  have hdump := ofDump_ofList h
  rwa [String.ofList_toList] at hdump

/-- The path is left out, the fields of the token stand in reverse, its kind has an unknown name and
its text is spelled with an escape, and an unknown field holds an object with a brace for a key and a
quote in a list. -/
theorem ofDump_of_dumpText_reversed :
    let tokens : List Token := [⟨.other, "A", 1, 7⟩]
    let s := "\x7b\"new\":\x7b\"\x7d\":[\"\\\"\"]\x7d, \"tokens\" : [\x7b\"column\":7," ++
      "\"line\":1,\"text\":\"\\u0041\",\"kind\":\"LAMBDA\"\x7d]\n\x7d"
    DumpText none tokens s.toList ∧ ofDump s = .ok ⟨"", tokens⟩ := by
  intro tokens s
  have hspace : Blanks [' '] := by simp [Blanks, isBlank]
  have hbreak : Blanks ['\n'] := by simp [Blanks, isBlank]
  -- The unknown field.
  have hbrace : AnyText ('"' :: ([['}']].flatten ++ ['"'])) :=
    .mk (by simpa using .plain ⟨by decide, by decide, by decide⟩)
  have hquote : AnyText ('"' :: ([['\\', '"']].flatten ++ ['"'])) :=
    .mk (by simpa using .letter (c := '"') (by decide))
  have hlist : WellFormed .value (Frame.list.opener :: _) :=
    .opened (.part (.first .nil) .list (.scalar (.text hquote)) (.closed .nil))
  have hvalue : WellFormed .value (Frame.object.opener :: _) :=
    .opened (.part (.first .nil) (.object hbrace .nil .nil) hlist (.closed .nil))
  have hnew : EntryText ("new", WellFormed .value) _ := .mk (textOf_writeText "new") .nil .nil hvalue
  -- The fields of the token.
  have hcolumn : EntryText ("column", Token.WordText 7) _ :=
    .mk (textOf_writeText "column") .nil .nil (rfl : Token.WordText 7 ['7'])
  have hline : EntryText ("line", Token.WordText 1) _ :=
    .mk (textOf_writeText "line") .nil .nil (rfl : Token.WordText 1 ['1'])
  have hletter : TextOf "A" _ := .mk (.cons (.digits (hexDigits_control (n := 65) (by decide))) .nil)
  have htext : EntryText ("text", TextOf "A") _ := .mk (textOf_writeText "text") .nil .nil hletter
  have hname : Token.KindText .other _ := .mk (.unknown (by decide)) (textOf_writeText "LAMBDA")
  have hkind : EntryText ("kind", Token.KindText .other) _ :=
    .mk (textOf_writeText "kind") .nil .nil hname
  have hfields : Sequence EntryText '}' true [_, _, _, _] _ :=
    .part (.first .nil) hcolumn (.part (.comma .nil .nil) hline (.part (.comma .nil .nil) htext
      (.part (.comma .nil .nil) hkind (.stop .nil))))
  have htoken : Token.TokenText ⟨.other, "A", 1, 7⟩ _ :=
    .mk (List.forall_mem_nil _) (List.reverse_perm [_, _, _, _]) hfields
  -- The whole.
  have htokens : EntryText ("tokens", ListText Token.TokenText tokens) _ :=
    .mk (textOf_writeText "tokens") hspace hspace (.mk (.part (.first .nil) htoken (.stop .nil)))
  have hmembers : Sequence EntryText '}' true [_, _] _ :=
    .part (.first .nil) hnew (.part (.comma .nil hspace) htokens (.stop hbreak))
  have hunknown : ∀ key ∈ ["new"], key ∉ ["path", "tokens"] := by decide
  obtain ⟨cs, hdump, hs⟩ : ∃ cs, DumpText none tokens cs ∧ s.toList = cs :=
    ⟨_, .mk .nil (.mk hunknown (List.Perm.swap _ _ _) hmembers) .nil, by decide +kernel⟩
  have h : DumpText none tokens s.toList := hs ▸ hdump
  exact ⟨h, ofDump_of_dumpText h⟩

end Manifest

end ManifestLint
