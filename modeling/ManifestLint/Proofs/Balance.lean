import ManifestLint.Proofs.Stream
import ManifestLint.Token
import Mathlib.Data.Nat.Find

namespace ManifestLint.Delimiter

open Token

def weight (d : Delimiter) (t : Token) : Int :=
  if t.kind = d.opener then 1 else if t.kind = d.closer then -1 else 0

/-- Opening minus closing tokens of a list. -/
def balance (d : Delimiter) (l : List Token) : Int :=
  l.countP (·.kind == d.opener) - l.countP (·.kind == d.closer)

def height (d : Delimiter) (tokens : List Token) (k : Nat) : Int := d.balance (tokens.take k)

variable {d : Delimiter} {tokens : List Token}

theorem opener_ne_closer (d : Delimiter) : d.opener ≠ d.closer := by
  cases d <;> decide

theorem weight_opener {t : Token} (h : t.kind = d.opener) : d.weight t = 1 := by
  rw [weight, if_pos h]

theorem weight_closer {t : Token} (h : t.kind = d.closer) : d.weight t = -1 := by
  have hne : t.kind ≠ d.opener := fun ho ↦ d.opener_ne_closer (ho.symm.trans h)
  rw [weight, if_neg hne, if_pos h]

theorem weight_other {t : Token} (ho : t.kind ≠ d.opener) (hc : t.kind ≠ d.closer) :
    d.weight t = 0 := by
  rw [weight, if_neg ho, if_neg hc]

@[simp]
theorem balance_nil : d.balance [] = 0 := rfl

@[simp]
theorem balance_cons (t : Token) (l : List Token) :
    d.balance (t :: l) = d.weight t + d.balance l := by
  unfold balance
  rw [List.countP_cons, List.countP_cons]
  by_cases ho : t.kind = d.opener
  · have hc : t.kind ≠ d.closer := fun hc ↦ d.opener_ne_closer (ho.symm.trans hc)
    rw [weight_opener ho]
    simp only [beq_iff_eq, ho, if_true, d.opener_ne_closer, if_false]
    omega
  · by_cases hc : t.kind = d.closer
    · rw [weight_closer hc]
      simp only [beq_iff_eq, hc, d.opener_ne_closer.symm, if_true, if_false]
      omega
    · rw [weight_other ho hc]
      simp only [beq_iff_eq, ho, hc, if_false]
      omega

@[simp]
theorem balance_append (l m : List Token) : d.balance (l ++ m) = d.balance l + d.balance m := by
  induction l with
  | nil => simp
  | cons t l ih => rw [List.cons_append, balance_cons, balance_cons, ih, Int.add_assoc]

theorem weight_formatting {t : Token} (h : t.isSignificant = false) : d.weight t = 0 := by
  have hf : t.kind.isFormatting = true := by simpa [isSignificant, isFormatting] using h
  apply weight_other
  · intro hk
    rw [hk] at hf
    cases d <;> exact absurd hf (by decide)
  · intro hk
    rw [hk] at hf
    cases d <;> exact absurd hf (by decide)

theorem balance_filter (l : List Token) : d.balance (l.filter isSignificant) = d.balance l := by
  induction l with
  | nil => rfl
  | cons t l ih =>
    cases ht : t.isSignificant
    · rw [List.filter_cons_of_neg (by simp [ht]), balance_cons, weight_formatting ht, ih,
        Int.zero_add]
    · rw [List.filter_cons_of_pos ht, balance_cons, balance_cons, ih]

theorem height_succ {k : Nat} {t : Token} (h : tokens[k]? = some t) :
    d.height tokens (k + 1) = d.height tokens k + d.weight t := by
  rw [height, height, List.take_add_one, h]
  simp

theorem height_succ_of_kindAt {k : Nat} {kind : Token.Kind}
    (h : Stream.kindAt tokens k = some kind) (ho : kind ≠ d.opener) (hc : kind ≠ d.closer) :
    d.height tokens (k + 1) = d.height tokens k := by
  obtain ⟨t, ht, rfl⟩ := Stream.kindAt_eq_some_iff.mp h
  rw [height_succ ht, weight_other ho hc, Int.add_zero]

theorem balance_slice {i k : Nat} (h : i ≤ k + 1) :
    d.balance (Stream.slice tokens i k) = d.height tokens (k + 1) - d.height tokens i := by
  have hk : tokens.take (k + 1) = tokens.take i ++ Stream.slice tokens i k := by
    rw [Stream.slice, ← List.take_add, Nat.add_sub_cancel' h]
  rw [height, hk, balance_append, height]
  omega

theorem height_of_length_le {k : Nat} (h : tokens.length ≤ k) :
    d.height tokens (k + 1) = d.height tokens k := by
  rw [height, height, List.take_of_length_le h, List.take_of_length_le (by omega)]

theorem height_le_succ (d : Delimiter) (tokens : List Token) (k : Nat) :
    d.height tokens k ≤ d.height tokens (k + 1) + 1 := by
  rcases Nat.lt_or_ge k tokens.length with hk | hk
  · rw [height_succ (List.getElem?_eq_getElem hk), weight]
    split
    · omega
    · split <;> omega
  · rw [height_of_length_le hk]
    omega

/-- From `i` on the stream stays above the height `base` up to `c`, and is down to it behind `c`. -/
structure Falls (d : Delimiter) (tokens : List Token) (base : Int) (i c : Nat) : Prop where
  le : i ≤ c
  level : d.height tokens (c + 1) = base
  above : ∀ k, i ≤ k → k ≤ c → base < d.height tokens k

section Falls

variable {base : Int} {i c : Nat}

theorem Falls.lt_length (h : d.Falls tokens base i c) : c < tokens.length := by
  by_contra! hlen
  have habove := h.above c h.le le_rfl
  have hlevel := h.level
  rw [height_of_length_le hlen] at hlevel
  omega

theorem falls_iff_eq (h : base < d.height tokens i) (hend : d.height tokens (i + 1) = base) :
    d.Falls tokens base i c ↔ i = c := by
  constructor
  · intro hf
    have hle := hf.le
    by_contra hne
    have habove := hf.above (i + 1) (by omega) (by omega)
    omega
  · intro he
    subst he
    refine ⟨le_rfl, hend, fun k hik hki ↦ ?_⟩
    obtain rfl : i = k := le_antisymm hik hki
    exact h

theorem falls_succ_iff (h : base < d.height tokens i) (hne : d.height tokens (i + 1) ≠ base) :
    d.Falls tokens base (i + 1) c ↔ d.Falls tokens base i c := by
  constructor
  · intro hf
    refine ⟨by have hle := hf.le; omega, hf.level, fun k hik hkc ↦ ?_⟩
    rcases hik.eq_or_lt with rfl | hlt
    · exact h
    · exact hf.above k hlt hkc
  · intro hf
    have hle : i ≠ c := by
      intro he
      subst he
      exact hne hf.level
    refine ⟨by have hle := hf.le; omega, hf.level, fun k hik hkc ↦ ?_⟩
    exact hf.above k (by omega) hkc

/-- The search with `depth` open pairs stops where the stream first falls back to the height below
all of them. -/
theorem closeFrom_eq_some_iff {depth : Nat} (hpos : 0 < depth)
    (hdepth : d.height tokens i = base + depth) :
    d.closeFrom depth i (tokens.drop i) = some c ↔ d.Falls tokens base i c := by
  generalize hl : tokens.drop i = l
  induction l generalizing depth i with
  | nil =>
    have hlen : tokens.length ≤ i := List.drop_eq_nil_iff.mp hl
    have hf : ¬ d.Falls tokens base i c := fun h ↦ absurd h.lt_length (by have := h.le; omega)
    simp only [closeFrom, reduceCtorEq, hf]
  | cons t l ih =>
    obtain ⟨ht, hl⟩ := Stream.getElem?_of_drop_eq_cons hl
    have hstep := d.height_succ ht
    have habove : base < d.height tokens i := by omega
    rw [closeFrom]
    by_cases ho : t.kind = d.opener
    · rw [weight_opener ho] at hstep
      rw [if_pos ho, ih (by omega) (by omega) hl, falls_succ_iff habove (by omega)]
    · rw [if_neg ho]
      by_cases hc : t.kind = d.closer
      · rw [weight_closer hc] at hstep
        rw [if_pos hc]
        by_cases hlast : depth ≤ 1
        · rw [if_pos hlast, Option.some_inj, falls_iff_eq habove (by omega)]
        · rw [if_neg hlast, ih (by omega) (by omega) hl, falls_succ_iff habove (by omega)]
      · rw [weight_other ho hc] at hstep
        rw [if_neg hc, ih hpos (by omega) hl, falls_succ_iff habove (by omega)]

end Falls

/-- The token at `close` closes the pair that the token at `i` opens. -/
structure Closes (d : Delimiter) (tokens : List Token) (i close : Nat) : Prop where
  opens : Stream.kindAt tokens i = some d.opener
  lt : i < close
  even : d.balance (Stream.slice tokens i close) = 0
  inside : ∀ k, i ≤ k → k < close → 0 < d.balance (Stream.slice tokens i k)

theorem closes_iff_falls {i c : Nat} : d.Closes tokens i c ↔
    Stream.kindAt tokens i = some d.opener ∧ d.Falls tokens (d.height tokens i) (i + 1) c := by
  constructor
  · intro h
    obtain ⟨hopen, hlt, heven, hinside⟩ := h
    rw [balance_slice (by omega)] at heven
    refine ⟨hopen, hlt, by omega, fun k hik hkc ↦ ?_⟩
    have h := hinside (k - 1) (by omega) (by omega)
    rw [balance_slice (by omega), Nat.sub_add_cancel (by omega)] at h
    omega
  · intro h
    obtain ⟨hopen, hlt, heven, hinside⟩ := h
    refine ⟨hopen, hlt, ?_, fun k hik hkc ↦ ?_⟩
    · rw [balance_slice (by omega)]
      omega
    · rw [balance_slice (by omega)]
      have h := hinside (k + 1) (by omega) (by omega)
      omega

theorem matchingClose_eq_ok_iff {i c : Nat} :
    d.matchingClose tokens i = .ok c ↔ d.Closes tokens i c := by
  rw [closes_iff_falls, matchingClose]
  by_cases hopen : Stream.kindAt tokens i = some d.opener
  · obtain ⟨t, ht, hk⟩ := Stream.kindAt_eq_some_iff.mp hopen
    have hstep := d.height_succ ht
    rw [weight_opener hk] at hstep
    have hfirst : d.closeFrom 0 i (tokens.drop i) =
        d.closeFrom 1 (i + 1) (tokens.drop (i + 1)) := by
      rw [Stream.drop_eq_cons_of_getElem? ht, closeFrom, if_pos hk]
    have hspec := closeFrom_eq_some_iff (c := c) Nat.one_pos hstep
    rw [if_pos hopen, hfirst, ← hspec]
    cases d.closeFrom 1 (i + 1) (tokens.drop (i + 1)) <;> simp [hopen]
  · simp [hopen]

theorem Closes.lt_length {i c : Nat} (h : d.Closes tokens i c) : c < tokens.length :=
  (closes_iff_falls.mp h).2.lt_length

theorem Closes.kindAt {i c : Nat} (h : d.Closes tokens i c) :
    Stream.kindAt tokens c = some d.closer := by
  have hf := (closes_iff_falls.mp h).2
  obtain ⟨t, ht⟩ : ∃ t, tokens[c]? = some t := ⟨_, List.getElem?_eq_getElem h.lt_length⟩
  have hstep := d.height_succ ht
  have habove := hf.above c hf.le le_rfl
  have hlevel := hf.level
  rw [Stream.kindAt_of_getElem? ht, Option.some_inj]
  by_contra hk
  by_cases ho : t.kind = d.opener
  · rw [weight_opener ho] at hstep
    omega
  · rw [weight_other ho hk] at hstep
    omega

/-- A pair is closed before the stream is back at the height at which it was opened. -/
theorem exists_closes {i b : Nat} (hopen : Stream.kindAt tokens i = some d.opener) (hlt : i < b)
    (hlevel : d.height tokens b ≤ d.height tokens i) : ∃ c, d.Closes tokens i c ∧ c < b := by
  classical
  obtain ⟨t, ht, hk⟩ := Stream.kindAt_eq_some_iff.mp hopen
  have hup := d.height_succ ht
  rw [weight_opener hk] at hup
  have hne : b ≠ i + 1 := by
    intro he
    subst he
    omega
  have hex : ∃ c, i < c ∧ d.height tokens (c + 1) ≤ d.height tokens i :=
    ⟨b - 1, by omega, by rwa [Nat.sub_add_cancel (by omega)]⟩
  obtain ⟨hic, hc⟩ := Nat.find_spec hex
  have hcb : Nat.find hex ≤ b - 1 :=
    Nat.find_le ⟨by omega, by rwa [Nat.sub_add_cancel (by omega)]⟩
  have habove : ∀ k, i + 1 ≤ k → k ≤ Nat.find hex → d.height tokens i < d.height tokens k := by
    intro k hik hkc
    rcases hik.eq_or_lt with rfl | hik
    · omega
    · have hmin := Nat.find_min hex (m := k - 1) (by omega)
      rw [Nat.sub_add_cancel (by omega)] at hmin
      by_contra! hle
      exact hmin ⟨by omega, hle⟩
  have hstep := d.height_le_succ tokens (Nat.find hex)
  have hlast := habove _ hic le_rfl
  exact ⟨Nat.find hex, closes_iff_falls.mpr ⟨hopen, hic, by omega, habove⟩, by omega⟩

theorem Closes.unique {i c e : Nat} (h : d.Closes tokens i c) (h' : d.Closes tokens i e) : c = e := by
  have hc := matchingClose_eq_ok_iff.mpr h
  rw [matchingClose_eq_ok_iff.mpr h'] at hc
  exact (Except.ok.inj hc).symm

theorem Closes.exists_inside {i j c : Nat} (h : d.Closes tokens i c)
    (hopen : Stream.kindAt tokens j = some d.opener) (hij : i < j) (hjc : j < c) :
    ∃ e, d.Closes tokens j e ∧ e < c := by
  have hf := (closes_iff_falls.mp h).2
  have habove := hf.above j hij hjc.le
  have hlevel := hf.level
  obtain ⟨e, he, hec⟩ := exists_closes hopen (b := c + 1) (by omega) (by omega)
  have hne : e ≠ c := by
    intro heq
    subst heq
    have hback := (closes_iff_falls.mp he).2.level
    omega
  exact ⟨e, he, by omega⟩

end ManifestLint.Delimiter
