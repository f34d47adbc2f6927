import ManifestLint.Json.Read
import ManifestLint.Json.Write
import ManifestLint.Proofs.JsonGrammar
import Mathlib.Data.List.Forall2
import Mathlib.Tactic.Common

namespace ManifestLint

namespace Decimal

theorem isDigit_digitChar : ∀ d < 10, (digitChar d).isDigit = true := by decide

theorem digitValue_digitChar : ∀ d < 10, digitValue (digitChar d) = d := by decide

theorem isDigit_of_mem_digits {n : Nat} {c : Char} (h : c ∈ digits n) : c.isDigit = true := by
  fun_induction digits n with
  | case1 n hn =>
    rw [List.mem_singleton.1 h]
    exact isDigit_digitChar n hn
  | case2 n hn ih =>
    rcases List.mem_append.1 h with h | h
    · exact ih h
    · rw [List.mem_singleton.1 h]
      exact isDigit_digitChar _ (Nat.mod_lt n (by omega))

theorem value_digits (n : Nat) : value (digits n) = n := by
  fun_induction digits n with
  | case1 n hn => simp [value, valueFrom, digitValue_digitChar n hn]
  | case2 n hn ih =>
    have hlast := digitValue_digitChar (n % 10) (Nat.mod_lt n (by omega))
    rw [value, valueFrom] at ih ⊢
    rw [List.foldl_append, ih, List.foldl_cons, hlast]
    exact Nat.div_add_mod n 10

theorem exists_digits_eq_cons (n : Nat) :
    ∃ d ds, digits n = d :: ds ∧ d.isDigit = true := by
  have hne : digits n ≠ [] := by
    rw [digits]
    split <;> simp
  obtain ⟨d, ds, h⟩ := List.exists_cons_of_ne_nil hne
  have hmem : d ∈ digits n := h ▸ List.mem_cons_self
  exact ⟨d, ds, h, isDigit_of_mem_digits hmem⟩

theorem eq_zero_of_digits_eq_cons {n : Nat} {ds : List Char} (h : digits n = '0' :: ds) :
    n = 0 ∧ ds = [] := by
  fun_induction digits n generalizing ds with
  | case1 n hn =>
    have hzero : ∀ d < 10, digitChar d = '0' → d = 0 := by decide
    obtain ⟨hd, hds⟩ := List.cons.inj h
    exact ⟨hzero n hn hd, hds.symm⟩
  | case2 n hn ih =>
    obtain ⟨d, front, hfront, -⟩ := exists_digits_eq_cons (n / 10)
    rw [hfront, List.cons_append] at h
    obtain ⟨rfl, -⟩ := List.cons.inj h
    have := (ih hfront).1
    omega

theorem le_valueFrom (start : Nat) (ds : List Char) : start ≤ valueFrom start ds := by
  induction ds generalizing start with
  | nil => exact Nat.le_refl start
  | cons d ds ih =>
    have := ih (10 * start + digitValue d)
    rw [valueFrom, List.foldl_cons, ← valueFrom]
    omega

end Decimal

namespace Json

/-- A number that has ended before these characters does not go on with them. -/
def EndsNumber (cs : List Char) : Prop :=
  ∀ c ∈ cs.head?, ¬ c.isDigit = true ∧ c ≠ '.' ∧ ¬ isExponentMark c = true

theorem significandFrom_eq {start : Nat} {ds : List Char}
    (h : Decimal.valueFrom start ds ≤ maxWord) :
    significandFrom start ds = (Decimal.valueFrom start ds, ds.length, []) := by
  induction ds generalizing start with
  | nil => rfl
  | cons d ds ih =>
    rw [Decimal.valueFrom, List.foldl_cons, ← Decimal.valueFrom] at h ⊢
    have hstep := Decimal.le_valueFrom (10 * start + Decimal.digitValue d) ds
    rw [significandFrom, if_neg (by omega), ih h]
    rfl

theorem afterInteger_of_endsNumber {n : Nat} {rest : List Char} (h : EndsNumber rest) :
    afterInteger false n 0 rest = .ok (.word (UInt64.ofNat n), rest) := by
  cases rest with
  | nil => rfl
  | cons c cs =>
    obtain ⟨-, hpoint, hmark⟩ := h c rfl
    rw [afterInteger.eq_2 _ _ _ _ _ hpoint, if_neg hmark]
    rfl

theorem number_digits {n : Nat} (hn : n ≤ maxWord) {rest : List Char} (h : EndsNumber rest) :
    number false (Decimal.digits n ++ rest) = .ok (.word (UInt64.ofNat n), rest) := by
  have hall : ∀ c ∈ Decimal.digits n, c.isDigit = true := fun c ↦ Decimal.isDigit_of_mem_digits
  have htake : (Decimal.digits n ++ rest).takeWhile Char.isDigit = Decimal.digits n := by
    rw [List.takeWhile_append_of_pos hall]
    cases rest with
    | nil => simp
    | cons c cs => simp [(h c rfl).1]
  have hdrop : (Decimal.digits n ++ rest).dropWhile Char.isDigit = rest := by
    rw [List.dropWhile_append_of_pos hall]
    cases rest with
    | nil => rfl
    | cons c cs => rw [List.dropWhile_cons_of_neg (h c rfl).1]
  obtain ⟨d, ds, hds, hd⟩ := Decimal.exists_digits_eq_cons n
  rw [hds, List.cons_append] at htake hdrop ⊢
  by_cases hzero : d = '0'
  · subst hzero
    obtain ⟨rfl, rfl⟩ := Decimal.eq_zero_of_digits_eq_cons hds
    have hno : ¬ rest.head?.any Char.isDigit = true := by
      cases rest with
      | nil => simp
      | cons c cs => simpa using (h c rfl).1
    rw [List.nil_append, number, if_neg hno]
    exact afterInteger_of_endsNumber h
  · have hvalue : Decimal.valueFrom 0 (d :: ds) = n := by
      rw [← hds]
      exact Decimal.value_digits n
    have hsig : significandFrom 0 (d :: ds) = _ := significandFrom_eq (by omega)
    rw [number.eq_3 _ _ _ hzero, if_pos hd, htake, hdrop]
    simp only [hsig, hvalue]
    exact afterInteger_of_endsNumber h

theorem text_plain {c : Char} (hquote : c ≠ '"') (hback : c ≠ '\\') (hlow : ¬ c.toNat < 0x20)
    (cs : List Char) : text (c :: cs) = prepend c (text cs) := by
  rw [text.eq_7 c cs hquote (fun h _ ↦ hback h) (fun _ _ _ _ _ h _ ↦ hback h)
    (fun _ h _ ↦ hback h) (fun _ _ h _ ↦ hback h), if_neg hlow]

theorem text_simple {e c : Char} (h : simpleEscape? e = some c) (cs : List Char) :
    text ('\\' :: e :: cs) = prepend c (text cs) := by
  have hu : e ≠ 'u' := by
    rintro rfl
    cases h
  rw [text.eq_6 e cs (fun _ _ _ _ _ h _ ↦ hu h) hu, h]

theorem text_unicode {a b c d : Char} {n : Nat} (h : hexValue4? a b c d = some n)
    (hn : n < 0xD800 ∨ 0xDFFF < n) (cs : List Char) :
    text ('\\' :: 'u' :: a :: b :: c :: d :: cs) = prepend (Char.ofNat n) (text cs) := by
  have htrailing : ¬ isTrailingSurrogate n = true := by
    simp only [isTrailingSurrogate, Bool.and_eq_true, decide_eq_true_eq]
    omega
  have hleading : ¬ isLeadingSurrogate n = true := by
    simp only [isLeadingSurrogate, Bool.and_eq_true, decide_eq_true_eq]
    omega
  rw [text.eq_4]
  simp only [h, if_neg htrailing, if_neg hleading]

theorem text_surrogates {a b c d a' b' c' d' : Char} {n m code : Nat} (hn : n < 0x400)
    (hm : m < 0x400) (hcode : code = 0x10000 + n * 1024 + m)
    (h : hexValue4? a b c d = some (0xD800 + n)) (h' : hexValue4? a' b' c' d' = some (0xDC00 + m))
    (cs : List Char) :
    text ('\\' :: 'u' :: a :: b :: c :: d :: '\\' :: 'u' :: a' :: b' :: c' :: d' :: cs) =
      prepend (Char.ofNat code) (text cs) := by
  have htrailing : ¬ isTrailingSurrogate (0xD800 + n) = true := by
    simp only [isTrailingSurrogate, Bool.and_eq_true, decide_eq_true_eq]
    omega
  have hleading : isLeadingSurrogate (0xD800 + n) = true := by
    simp only [isLeadingSurrogate, Bool.and_eq_true, decide_eq_true_eq]
    omega
  have htrailing' : isTrailingSurrogate (0xDC00 + m) = true := by
    simp only [isTrailingSurrogate, Bool.and_eq_true, decide_eq_true_eq]
    omega
  rw [text.eq_4]
  simp only [h, h', if_neg htrailing, if_pos hleading, if_pos htrailing', Nat.add_sub_cancel_left,
    hcode]

theorem hexValue?_of_hexDigit {v : Nat} {c : Char} (h : HexDigit v c) : hexValue? c = some v := by
  have hlower : ∀ v < 16, hexValue? v.digitChar = some v := by decide
  have hupper : ∀ v < 16, hexValue? v.digitChar.toUpper = some v := by decide
  cases h with
  | lower hv => exact hlower v hv
  | upper hv => exact hupper v hv

theorem HexDigits.exists_hexValue4? {n : Nat} {us : List Char} (h : HexDigits n us) :
    ∃ w x y z, us = [w, x, y, z] ∧ hexValue4? w x y z = some n := by
  cases h with
  | @mk a b c d w x y z hw hx hy hz =>
    refine ⟨w, x, y, z, rfl, ?_⟩
    simp only [hexValue4?, hexValue?_of_hexDigit hw, hexValue?_of_hexDigit hx,
      hexValue?_of_hexDigit hy, hexValue?_of_hexDigit hz]
    rfl

theorem simpleEscape?_of_mem {e c : Char} (h : (e, c) ∈ escapes) : simpleEscape? e = some c := by
  have hescapes : ∀ p ∈ escapes, simpleEscape? p.1 = some p.2 := by decide
  exact hescapes _ h

theorem toNat_ne_surrogate (c : Char) : c.toNat < 0xD800 ∨ 0xDFFF < c.toNat := by
  rcases c.valid with h | h
  · exact .inl h
  · exact .inr h.1

theorem text_spelled {c : Char} {cs : List Char} (h : Spelled c cs) (rest : List Char) :
    text (cs ++ rest) = prepend c (text rest) := by
  cases h with
  | plain hc => exact text_plain hc.1 hc.2.1 hc.2.2 rest
  | letter hc => exact text_simple (simpleEscape?_of_mem hc) rest
  | digits hc =>
    obtain ⟨w, x, y, z, rfl, hvalue⟩ := hc.exists_hexValue4?
    have h := text_unicode hvalue (toNat_ne_surrogate c) rest
    rwa [Char.ofNat_toNat] at h
  | pair hc hhigh hlow =>
    obtain ⟨w, x, y, z, rfl, hvalue⟩ := hhigh.exists_hexValue4?
    obtain ⟨w', x', y', z', rfl, hvalue'⟩ := hlow.exists_hexValue4?
    have hlt : c.toNat < 0x110000 := c.valid.elim (fun h ↦ Nat.lt_trans h (by decide)) And.right
    have hcode : c.toNat =
        0x10000 + (c.toNat - 0x10000) / 0x400 * 1024 + (c.toNat - 0x10000) % 0x400 := by omega
    have h := text_surrogates (by omega) (Nat.mod_lt _ (by decide)) hcode hvalue hvalue' rest
    rwa [Char.ofNat_toNat] at h

theorem text_forall₂_spelled {s : List Char} {parts : List (List Char)}
    (h : List.Forall₂ Spelled s parts) (rest : List Char) :
    text (parts.flatten ++ '"' :: rest) = .ok (s, rest) := by
  induction h with
  | nil => exact text.eq_2 rest
  | cons hc _ ih =>
    rw [List.flatten_cons, List.append_assoc, text_spelled hc, ih]
    rfl

theorem hexDigits_control {n : Nat} (h : n < 0x100) :
    HexDigits n ['0', '0', (n / 16).digitChar, (n % 16).digitChar] := by
  have hdigits : HexDigits (4096 * 0 + 256 * 0 + 16 * (n / 16) + n % 16) _ :=
    .mk (.lower (by omega)) (.lower (by omega)) (.lower (by omega)) (.lower (by omega))
  have hvalue : 4096 * 0 + 256 * 0 + 16 * (n / 16) + n % 16 = n := by omega
  rwa [hvalue] at hdigits

theorem spelled_escape (c : Char) : Spelled c (escape c) := by
  have hcontrol (hlow : c.toNat < 0x20) := Spelled.digits (hexDigits_control (n := c.toNat) (by omega))
  unfold escape
  split_ifs with hquote hback hbs hff hlf hcr htab hshort hlow
  · subst hquote
    exact .letter (by decide)
  · subst hback
    exact .letter (by decide)
  · subst hbs
    exact .letter (by decide)
  · subst hff
    exact .letter (by decide)
  · subst hlf
    exact .letter (by decide)
  · subst hcr
    exact .letter (by decide)
  · subst htab
    exact .letter (by decide)
  · have h := hcontrol (by omega)
    rw [Nat.div_eq_of_lt hshort, Nat.mod_eq_of_lt hshort] at h
    rw [Text.hexDigits, Nat.toDigits_of_lt_base hshort]
    exact h
  · rw [Text.hexDigits, Nat.toDigits_of_base_le (by omega) (by omega),
      Nat.toDigits_of_lt_base (by omega)]
    exact hcontrol hlow
  · exact .plain ⟨hquote, hback, hlow⟩

theorem textOf_writeText (s : String) : TextOf s (writeText s) := by
  have hparts : List.Forall₂ Spelled s.toList (s.toList.map escape) :=
    List.forall₂_map_right_iff.2 (List.forall₂_same.2 fun c _ ↦ spelled_escape c)
  have h := TextOf.mk hparts
  rwa [← List.flatMap_def] at h

end Json

end ManifestLint
