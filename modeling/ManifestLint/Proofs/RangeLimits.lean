import ManifestLint.Declaration
import ManifestLint.Proofs.GuardedRules
import ManifestLint.Proofs.Views

namespace ManifestLint

open Token Stream Declaration

def Token.Stream.indexed (stream : List Token) (a b : Nat) : List Token :=
  (stream.zipIdx.filter fun p ↦ a ≤ p.2 ∧ p.2 ≤ b ∧ p.1.isSignificant = true).map Prod.fst

theorem Token.Stream.significant_eq_indexed (stream : List Token) (a b : Nat) :
    significant stream a b = indexed stream a b := by
  apply walk_significant_eq_map id (fun t _ ↦ [t]) stream rfl fun _ _ ↦ rfl
  intro q _ _ _
  rfl

theorem Token.Stream.indexed_eq_nil {stream : List Token} {a b : Nat} (h : b < a) :
    indexed stream a b = [] := by
  rw [← significant_eq_indexed, significant_eq_nil]
  intro j haj hjb
  omega

namespace Declaration

/-- The parentheses at `o` and `k` are a parameter list for a search that begins at `first`. -/
structure ListIn (stream : List Token) (first last o k : Nat) : Prop where
  first_le : first ≤ o
  clear : ∀ j, first ≤ j → j < o → kindAt stream j ≠ some .leftParen ∧
    kindAt stream j ≠ some .rightParen ∧ kindAt stream j ≠ some .leftBrace
  closed : Delimiter.paren.matchingClose stream o = .ok k
  le_last : k ≤ last

variable {stream : List Token} {first last i o k : Nat} {t : Token}

theorem ListIn.closes (h : ListIn stream first last o k) : Delimiter.paren.Closes stream o k :=
  Delimiter.matchingClose_eq_ok_iff.mp h.closed

theorem listIn_succ_iff (ht : stream[i]? = some t) (hopen : t.kind ≠ .leftParen)
    (hclose : t.kind ≠ .rightParen) (hbrace : t.kind ≠ .leftBrace) :
    ListIn stream (i + 1) last o k ↔ ListIn stream i last o k := by
  have hkind := kindAt_of_getElem? ht
  constructor
  · intro h
    refine ⟨Nat.le_of_succ_le h.first_le, fun j hij hjo ↦ ?_, h.closed, h.le_last⟩
    rcases hij.eq_or_lt with rfl | hlt
    · rw [hkind]
      simp [hopen, hclose, hbrace]
    · exact h.clear j hlt hjo
  · intro h
    refine ⟨lt_of_le_of_ne h.first_le ?_, fun j hij hjo ↦ h.clear j (Nat.le_of_succ_le hij) hjo,
      h.closed, h.le_last⟩
    rintro rfl
    have hparen := h.closes.opens
    rw [hkind] at hparen
    exact hopen (Option.some.inj hparen)

theorem not_listIn (hkind : kindAt stream i = some t.kind)
    (h : t.kind = .leftBrace ∨ t.kind = .rightParen) : ¬ ListIn stream i last o k := by
  intro hlist
  rcases hlist.first_le.eq_or_lt with rfl | hlt
  · have hparen := hlist.closes.opens
    rw [hkind] at hparen
    rcases h with h | h <;> rw [h] at hparen <;> cases hparen
  · obtain ⟨-, hclose, hbrace⟩ := hlist.clear i le_rfl hlt
    rw [hkind] at hclose hbrace
    rcases h with h | h <;> simp [h] at hclose hbrace

theorem listIn_open_iff (hkind : kindAt stream i = some .leftParen) :
    ListIn stream i last o k ↔
      o = i ∧ Delimiter.paren.matchingClose stream i = .ok k ∧ k ≤ last := by
  constructor
  · intro h
    obtain rfl : o = i := by
      refine le_antisymm (not_lt.mp fun hlt ↦ ?_) h.first_le
      exact (h.clear i le_rfl hlt).1 hkind
    exact ⟨rfl, h.closed, h.le_last⟩
  · rintro ⟨rfl, hclosed, hle⟩
    exact ⟨le_rfl, fun j hij hjo ↦ by omega, hclosed, hle⟩

theorem not_listIn_of_lt (hi : last < i ∨ stream.length ≤ i) : ¬ ListIn stream i last o k := by
  intro h
  have hlt := h.closes.lt
  have hlen := h.closes.lt_length
  have hfirst := h.first_le
  have hlast := h.le_last
  omega

theorem found_parametersFrom_open (hopen : t.kind = .leftParen) (l : List Token) :
    found (parametersFrom stream last i (t :: l)) = some (o, k) ↔
      o = i ∧ Delimiter.paren.matchingClose stream i = .ok k ∧ k ≤ last := by
  rw [parametersFrom, if_neg (by simp [hopen]), if_neg (by simp [hopen]), if_pos hopen]
  cases Delimiter.paren.matchingClose stream i with
  | error cause => simp [found]
  | ok close =>
    simp only [found, Option.ite_none_right_eq_some, Option.some_inj, Prod.mk.injEq, Except.ok.injEq]
    constructor
    · rintro ⟨hle, rfl, rfl⟩
      exact ⟨rfl, rfl, hle⟩
    · rintro ⟨rfl, rfl, hle⟩
      exact ⟨hle, rfl, rfl⟩

theorem found_parametersFrom_iff (stream : List Token) (last i o k : Nat) :
    found (parametersFrom stream last i (slice stream i last)) = some (o, k) ↔
      ListIn stream i last o k := by
  generalize hn : last + 1 - i = n
  induction n generalizing i with
  | zero =>
    rw [slice, hn, List.take_zero, parametersFrom, found]
    exact iff_of_false (by simp) (not_listIn_of_lt (by omega))
  | succ n ih =>
    cases ht : stream[i]? with
    | none =>
      have hlen := List.getElem?_eq_none_iff.mp ht
      rw [slice, List.drop_eq_nil_of_le hlen, List.take_nil, parametersFrom, found]
      exact iff_of_false (by simp) (not_listIn_of_lt (.inr hlen))
    | some t =>
      have hkind := kindAt_of_getElem? ht
      rw [slice_eq_cons ht (by omega)]
      by_cases hopen : t.kind = .leftParen
      · rw [found_parametersFrom_open hopen, listIn_open_iff (by rw [hkind, hopen])]
      · rw [parametersFrom]
        by_cases hbrace : t.kind = .leftBrace
        · rw [if_pos hbrace, found]
          exact iff_of_false (by simp) (not_listIn hkind (.inl hbrace))
        · rw [if_neg hbrace]
          by_cases hclose : t.kind = .rightParen
          · rw [if_pos hclose, found]
            exact iff_of_false (by simp) (not_listIn hkind (.inr hclose))
          · rw [if_neg hclose, if_neg hopen, ih (i + 1) (by omega),
              listIn_succ_iff ht hopen hclose hbrace]

theorem slice_min (stream : List Token) (first last : Nat) :
    slice stream first (min last (stream.length - 1)) = slice stream first last := by
  rcases Nat.le_total last (stream.length - 1) with h | h
  · rw [Nat.min_eq_left h]
  · rw [Nat.min_eq_right h, slice, slice]
    have hlen : (stream.drop first).length = stream.length - first := List.length_drop
    rw [List.take_of_length_le (by omega), List.take_of_length_le (by omega)]

/-- A list that is closed is closed in the stream, so it does not matter whether the search is told
to end there. -/
theorem parametersFrom_min (stream : List Token) (last i : Nat) (l : List Token) :
    parametersFrom stream (min last (stream.length - 1)) i l = parametersFrom stream last i l := by
  induction l generalizing i with
  | nil => rfl
  | cons t l ih =>
    rw [parametersFrom, parametersFrom, ih]
    cases hclose : Delimiter.paren.matchingClose stream i with
    | error cause => rfl
    | ok close =>
      have hlen := (Delimiter.matchingClose_eq_ok_iff.mp hclose).lt_length
      have hle : close ≤ min last (stream.length - 1) ↔ close ≤ last := by omega
      simp only [hle]

end Declaration

namespace Guarded

variable {stream : List Token}

theorem parametersFrom_range (h : stream.length < 2 ^ 63) {first : Nat} (last : Nat)
    (hpos : 0 < first) :
    parametersFrom stream (min last (stream.length - 1))
        (List.range' first (min last (stream.length - 1) + 1 - first)) =
      .ok (Declaration.searchParameters stream first last) := by
  rw [Declaration.searchParameters, ← slice_min, ← parametersFrom_min]
  generalize hm : min last (stream.length - 1) = m
  rcases Nat.lt_or_ge m first with hlt | hle
  · have hnone : m + 1 - first = 0 := by omega
    rw [slice, hnone]
    rfl
  · exact parametersFrom_eq_ok h (by omega) (by omega)

end Guarded

namespace Declaration.Range

def declaration (r : Range) (kind : Kind) : Declaration :=
  ⟨kind, r.start.toNat, r.name.toNat, r.last.toNat⟩

variable {r : Range} {stream : List Token} {offset : UInt64} {o k : Nat}

theorem searchParameters_eq_ok_iff {search : Except Event (Option (Nat × Nat))} :
    r.searchParameters stream = .ok search ↔ r.name.toNat + 1 < 2 ^ 64 ∧
      Declaration.searchParameters stream (r.name.toNat + 1) r.last.toNat = search :=
  Guarded.add_bind_eq_ok_iff

theorem searchParameters_eq_error_iff {fault : Fault} : r.searchParameters stream = .error fault ↔
    2 ^ 64 ≤ r.name.toNat + 1 ∧ fault = .overflow r.name.toNat 1 :=
  Guarded.add_bind_eq_error_iff

theorem tokens_eq_ok_iff {view : List Token} : r.tokens stream offset = .ok view ↔
    r.start.toNat + offset.toNat < 2 ^ 64 ∧
      indexed stream (r.start.toNat + offset.toNat) r.last.toNat = view := by
  rw [← significant_eq_indexed]
  exact Guarded.add_bind_eq_ok_iff

theorem tokens_eq_error_iff {fault : Fault} : r.tokens stream offset = .error fault ↔
    2 ^ 64 ≤ r.start.toNat + offset.toNat ∧
      fault = .overflow r.start.toNat offset.toNat :=
  Guarded.add_bind_eq_error_iff

theorem searchParameters_guarded (h : stream.length < 2 ^ 63) (kind : Kind) :
    Guarded.searchParameters stream (r.declaration kind) = r.searchParameters stream := by
  rw [Guarded.searchParameters, declaration, searchParameters]
  dsimp only
  cases hfirst : Guarded.add r.name.toNat 1 with
  | error fault => rfl
  | ok first =>
    obtain rfl := Guarded.eq_of_add_eq_ok hfirst
    exact Guarded.parametersFrom_range h _ (Nat.succ_pos _)

theorem found_iff {search : Except Event (Option (Nat × Nat))}
    (h : r.searchParameters stream = .ok search) :
    found search = some (o, k) ↔ ListIn stream (r.name.toNat + 1) r.last.toNat o k := by
  obtain ⟨-, rfl⟩ := searchParameters_eq_ok_iff.mp h
  exact found_parametersFrom_iff stream r.last.toNat (r.name.toNat + 1) o k

/-- In a located declaration the sums are words, and the range gives what the rules read. -/
theorem range_of_isDeclaration {d : Declaration} {body : Nat} (h : stream.length < 2 ^ 63)
    (hd : IsDeclaration stream d body) (hoffset : offset.toNat < 2 ^ 63) :
    d.range.searchParameters stream =
        .ok (Declaration.searchParameters stream (d.name + 1) d.last) ∧
      d.range.tokens stream offset = .ok (d.tokens stream offset.toNat) := by
  have hlast := hd.closed.lt_length
  have hname : d.name < d.last := hd.name_lt_body.trans hd.body_lt_last
  have hstart := hd.significantAt_start.lt_length
  have hstart : d.range.start.toNat = d.start :=
    UInt64.toNat_ofNat_of_lt' (show _ < 2 ^ 64 by omega)
  have hname' : d.range.name.toNat = d.name :=
    UInt64.toNat_ofNat_of_lt' (show _ < 2 ^ 64 by omega)
  have hlast' : d.range.last.toNat = d.last :=
    UInt64.toNat_ofNat_of_lt' (show _ < 2 ^ 64 by omega)
  rw [searchParameters_eq_ok_iff, tokens_eq_ok_iff, ← significant_eq_indexed, hname', hstart, hlast']
  exact ⟨⟨by omega, rfl⟩, by omega, rfl⟩

/-- What a caller may rely on for a range made by hand. Both functions fail exactly if their sum is
no word, and the search for parameters, in which tokens are read with a guard, fails in no other
way. Otherwise what is found is the first parenthesis behind the name with the one that closes it,
both in the range and in the stream, and the tokens are those with an index from the sum to the end
of the range. -/
theorem range_exact (r : Range) (stream : List Token) (offset : UInt64) :
    (stream.length < 2 ^ 63 → ∀ kind,
      Guarded.searchParameters stream (r.declaration kind) = r.searchParameters stream) ∧
    (∀ fault, r.searchParameters stream = .error fault ↔
      2 ^ 64 ≤ r.name.toNat + 1 ∧ fault = .overflow r.name.toNat 1) ∧
    (∀ search, r.searchParameters stream = .ok search → ∀ o k,
      found search = some (o, k) ↔ ListIn stream (r.name.toNat + 1) r.last.toNat o k) ∧
    (∀ o k, ListIn stream (r.name.toNat + 1) r.last.toNat o k →
      r.name.toNat < o ∧ o < k ∧ k < stream.length ∧ kindAt stream o = some .leftParen) ∧
    (∀ fault, r.tokens stream offset = .error fault ↔
      2 ^ 64 ≤ r.start.toNat + offset.toNat ∧ fault = .overflow r.start.toNat offset.toNat) ∧
    (∀ view, r.tokens stream offset = .ok view ↔ r.start.toNat + offset.toNat < 2 ^ 64 ∧
      indexed stream (r.start.toNat + offset.toNat) r.last.toNat = view) ∧
    (r.last.toNat < r.start.toNat + offset.toNat → r.start.toNat + offset.toNat < 2 ^ 64 →
      r.tokens stream offset = .ok []) := by
  refine ⟨searchParameters_guarded, fun fault ↦ searchParameters_eq_error_iff,
    fun search h o k ↦ found_iff h, fun o k h ↦ ?_, fun fault ↦ tokens_eq_error_iff,
    fun view ↦ tokens_eq_ok_iff, fun hlast hsum ↦ ?_⟩
  · exact ⟨h.first_le, h.closes.lt, h.closes.lt_length, h.closes.opens⟩
  · exact tokens_eq_ok_iff.mpr ⟨hsum, indexed_eq_nil hlast⟩

/-- The name is the token in front of the list, and the range ends at the largest word or, for the
offset behind its end, at the body. -/
theorem range_exact_last_word :
    let stream := ofKinds [.classWord, .whitespace, .name, .leftParen, .rightParen, .leftBrace,
      .rightBrace]
    let r : Range := ⟨0, 2, 18446744073709551615⟩
    let short : Range := ⟨0, 2, 6⟩
    stream.length < 2 ^ 63 ∧
      Guarded.searchParameters stream (r.declaration .classDecl) = r.searchParameters stream ∧
      r.searchParameters stream = .ok (.ok (some (3, 4))) ∧
      ListIn stream (r.name.toNat + 1) r.last.toNat 3 4 ∧ r.name.toNat < 3 ∧
      r.tokens stream 3 = .ok (indexed stream 3 r.last.toNat) ∧ short.tokens stream 7 = .ok [] := by
  intro stream r short
  have hlength : stream.length < 2 ^ 63 := by decide
  have hsearch : r.searchParameters stream = .ok (.ok (some (3, 4))) := by decide
  obtain ⟨hguarded, -, hlist, hinside, -, htokens, -⟩ := range_exact r stream 3
  obtain ⟨-, -, -, -, -, -, hbehind⟩ := range_exact short stream 7
  have hin := (hlist _ hsearch 3 4).mp rfl
  exact ⟨hlength, hguarded hlength .classDecl, hsearch, hin, (hinside 3 4 hin).1,
    (htokens _).mpr ⟨by decide, rfl⟩, hbehind (by decide) (by decide)⟩

/-- The index that the offset leads to and the one behind the name are no words. No token stands
there, yet both functions fail instead of finding none. -/
theorem range_overflows :
    let stream := ofKinds [.indent, .classWord, .whitespace, .name, .whitespace, .leftBrace,
      .whitespace, .rightBrace]
    let d : Declaration := ⟨.classDecl, 1, 3, 7⟩
    let largest : UInt64 := 18446744073709551615
    let parens := ofKinds [.leftParen, .rightParen]
    let r : Range := ⟨1, largest, 1⟩
    locate stream = [d] ∧
      d.range.tokens stream largest = .error (.overflow 1 18446744073709551615) ∧
      indexed stream (d.start + largest.toNat) d.last = [] ∧
      r.searchParameters parens = .error (.overflow 18446744073709551615 1) ∧
      Declaration.searchParameters parens (r.name.toNat + 1) r.last.toNat = .ok none := by
  decide

end Declaration.Range

end ManifestLint
