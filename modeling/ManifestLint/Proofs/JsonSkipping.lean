import ManifestLint.Proofs.JsonScalars

namespace ManifestLint.Json

theorem skipBlank_append {gap : List Char} (h : Blanks gap) (cs : List Char) :
    skipBlank (gap ++ cs) = skipBlank cs := List.dropWhile_append_of_pos h

theorem skipBlank_append_cons {gap : List Char} (hgap : Blanks gap) {c : Char}
    (hc : isBlank c = false) (cs : List Char) : skipBlank (gap ++ c :: cs) = c :: cs := by
  rw [skipBlank_append hgap, skipBlank, List.dropWhile_cons_of_neg (by simp [hc])]

theorem eq_of_isBlank {c : Char} (h : isBlank c = true) :
    c = ' ' ∨ c = '\n' ∨ c = '\t' ∨ c = '\r' := by
  simpa [isBlank, or_assoc] using h

theorem endsNumber_nil : EndsNumber [] := by
  intro c hc
  cases hc

theorem endsNumber_cons {c : Char}
    (h : ¬ c.isDigit = true ∧ c ≠ '.' ∧ ¬ isExponentMark c = true) (cs : List Char) :
    EndsNumber (c :: cs) := by
  intro d hd
  rw [← Option.some.inj hd]
  exact h

theorem endsNumber_append {gap cs : List Char} (h : Blanks gap) (hcs : EndsNumber cs) :
    EndsNumber (gap ++ cs) := by
  cases gap with
  | nil => exact hcs
  | cons b gap =>
    refine endsNumber_cons ?_ (gap ++ cs)
    rcases eq_of_isBlank (h b List.mem_cons_self) with rfl | rfl | rfl | rfl <;> decide

theorem skipColon_append {gap : List Char} (hgap : Blanks gap) (rest : List Char) :
    skipColon (gap ++ ':' :: rest) = .ok rest := by
  have hskip : skipBlank (gap ++ ':' :: rest) = _ := skipBlank_append_cons hgap rfl rest
  simp [skipColon, hskip]

theorem ok_bind {α β : Type} (a : α) (f : α → Except Problem β) :
    (Except.ok a >>= f) = f a := rfl

section Scalars

variable {cs rest : List Char}

theorem skipText_symbol (h : Symbol cs) (rest : List Char) : skipText (cs ++ rest) = skipText rest := by
  cases h with
  | @plain c hc =>
    obtain ⟨hquote, hback, hlow⟩ := hc
    rw [List.singleton_append, skipText.eq_7 c rest hquote (fun h _ ↦ hback h)
      (fun _ _ _ _ _ h _ ↦ hback h) (fun _ h _ ↦ hback h) (fun _ _ h _ ↦ hback h), if_neg hlow]
  | @letter e c hc =>
    have hescape := simpleEscape?_of_mem hc
    have hu : e ≠ 'u' := by
      intro he
      subst he
      cases hescape
    rw [List.cons_append, List.singleton_append, skipText.eq_6 e rest (fun _ _ _ _ _ h _ ↦ hu h) hu,
      hescape]
    rfl
  | digits hc =>
    obtain ⟨w, x, y, z, rfl, hvalue⟩ := hc.exists_hexValue4?
    simp only [List.cons_append, List.nil_append]
    rw [skipText.eq_4, hvalue]
    rfl

theorem skipText_append {parts : List (List Char)} (h : ∀ part ∈ parts, Symbol part)
    (rest : List Char) : skipText (parts.flatten ++ '"' :: rest) = .ok rest := by
  induction parts with
  | nil => exact skipText.eq_2 rest
  | cons part parts ih =>
    rw [List.forall_mem_cons] at h
    rw [List.flatten_cons, List.append_assoc, skipText_symbol h.1, ih h.2]

def NoDigit (cs : List Char) : Prop := ∀ c ∈ cs.head?, ¬ c.isDigit = true

theorem noDigit_cons {c : Char} (h : ¬ c.isDigit = true) (cs : List Char) : NoDigit (c :: cs) := by
  intro d hd
  rwa [← Option.some.inj hd]

theorem Digits.exists_cons {ds : List Char} (h : Digits ds) :
    ∃ d rest, ds = d :: rest ∧ d.isDigit = true := by
  obtain ⟨d, rest, rfl⟩ := List.exists_cons_of_ne_nil h.1
  exact ⟨d, rest, rfl, h.2 d List.mem_cons_self⟩

theorem ne_of_isDigit {c d : Char} (hd : d.isDigit = true) (hc : ¬ c.isDigit = true) : d ≠ c := by
  intro heq
  rw [heq] at hd
  exact hc hd

theorem skipDigits_append {ds : List Char} (h : Digits ds) (hrest : NoDigit rest) :
    skipDigits (ds ++ rest) = .ok rest := by
  have hdrop : (ds ++ rest).dropWhile Char.isDigit = rest := by
    rw [List.dropWhile_append_of_pos h.2]
    cases rest with
    | nil => rfl
    | cons c cs => rw [List.dropWhile_cons_of_neg (hrest c rfl)]
  obtain ⟨d, ds, rfl, hd⟩ := h.exists_cons
  rw [skipDigits, List.cons_append, List.head?_cons, Option.any_some, if_pos hd, ← List.cons_append,
    hdrop]

theorem EndsNumber.noDigit (h : EndsNumber rest) : NoDigit rest := fun c hc ↦ (h c hc).1

theorem isExponentMark_of_mem {mark : Char} (h : mark ∈ ['e', 'E']) : isExponentMark mark = true := by
  simpa [isExponentMark] using h

theorem Exponent.head? (h : Exponent cs) (hrest : EndsNumber rest) :
    ∀ c ∈ (cs ++ rest).head?, ¬ c.isDigit = true ∧ c ≠ '.' := by
  cases h with
  | absent => exact fun c hc ↦ ⟨(hrest c hc).1, (hrest c hc).2.1⟩
  | @digits mark _ _ hmark _ _ =>
    intro c hc
    rw [← Option.some.inj hc]
    simp only [List.mem_cons, List.not_mem_nil, or_false] at hmark
    rcases hmark with rfl | rfl <;> decide

theorem skipExponent_append (h : Exponent cs) (hrest : EndsNumber rest) :
    skipExponent (cs ++ rest) = .ok rest := by
  cases h with
  | absent =>
    cases rest with
    | nil => rfl
    | cons c cs => exact if_neg (hrest c rfl).2.2
  | @digits mark sign ds hmark hsign hds =>
    have hskip := skipDigits_append hds hrest.noDigit
    have hmark := isExponentMark_of_mem hmark
    simp only [List.mem_cons, List.not_mem_nil, or_false] at hsign
    rcases hsign with rfl | rfl | rfl
    · -- a digit is no sign
      obtain ⟨d, ds, rfl, hd⟩ := hds.exists_cons
      have hsign {sign : Char} (h : ¬ sign.isDigit = true) (cs : List Char) :
          d :: (ds ++ rest) ≠ sign :: cs := fun heq ↦ ne_of_isDigit hd h (List.cons.inj heq).1
      exact (skipExponent.eq_4 mark _ (hsign (by decide)) (hsign (by decide))).trans
        ((if_pos hmark).trans hskip)
    · exact (skipExponent.eq_2 mark _).trans ((if_pos hmark).trans hskip)
    · exact (skipExponent.eq_3 mark _).trans ((if_pos hmark).trans hskip)

def skipFraction : List Char → Except Problem (List Char)
  | '.' :: cs => do
    let cs ← skipDigits cs
    skipExponent cs
  | cs => skipExponent cs

theorem skipNumber_zero (h : NoDigit cs) : skipNumber ('0' :: cs) = skipFraction cs := by
  rw [skipNumber, if_neg ?_, ok_bind]
  · rfl
  · intro hany
    obtain ⟨c, hc, hdigit⟩ := (Option.any_eq_true _ _).mp hany
    exact h c hc hdigit

theorem skipNumber_of_ne (h : ∀ ds, cs = '0' :: ds → False) :
    skipNumber cs = skipDigits cs >>= skipFraction := by
  rw [skipNumber.eq_2 _ h]
  rfl

theorem skipFraction_append {fraction exponent : List Char} (hfraction : Fraction fraction)
    (hexponent : Exponent exponent) (hrest : EndsNumber rest) :
    skipFraction (fraction ++ (exponent ++ rest)) = .ok rest := by
  have hskip := skipExponent_append hexponent hrest
  have hhead := hexponent.head? hrest
  cases hfraction with
  | absent =>
    have hpoint : ∀ cs, exponent ++ rest = '.' :: cs → False := by
      intro cs heq
      exact (hhead '.' (by rw [heq]; rfl)).2 rfl
    rw [List.nil_append, skipFraction.eq_2 _ hpoint, hskip]
  | digits hds =>
    have hdigits := skipDigits_append hds fun c hc ↦ (hhead c hc).1
    rw [List.cons_append, skipFraction, hdigits, ok_bind, hskip]

theorem skipNumber_append {whole fraction exponent : List Char} (hwhole : WholeNumber whole)
    (hfraction : Fraction fraction) (hexponent : Exponent exponent) (hrest : EndsNumber rest) :
    skipNumber (whole ++ (fraction ++ (exponent ++ rest))) = .ok rest := by
  have htail := skipFraction_append hfraction hexponent hrest
  have hpoint : NoDigit (fraction ++ (exponent ++ rest)) := by
    cases hfraction with
    | absent => exact fun c hc ↦ (hexponent.head? hrest c hc).1
    | digits _ => exact noDigit_cons (by decide) _
  by_cases hzero : whole.head? = some '0'
  · rw [hwhole.2 hzero, List.singleton_append, skipNumber_zero hpoint, htail]
  · obtain ⟨d, ds, hds, -⟩ := hwhole.1.exists_cons
    have hne : ∀ cs, whole ++ (fraction ++ (exponent ++ rest)) = '0' :: cs → False := by
      intro cs heq
      rw [hds] at heq hzero
      exact hzero (congrArg some (List.cons.inj heq).1)
    rw [skipNumber_of_ne hne, skipDigits_append hwhole.1 hpoint, ok_bind, htail]

theorem restOfWord_append (word rest : List Char) : restOfWord word (word ++ rest) = .ok rest := by
  induction word with
  | nil => cases rest <;> rfl
  | cons w word ih => rw [List.cons_append, restOfWord, if_pos rfl, ih]

theorem skipScalar_append (h : Scalar cs) (hrest : EndsNumber rest) :
    skipScalar (cs ++ rest) = .ok rest := by
  cases h with
  | word h =>
    simp only [words, List.mem_cons, List.not_mem_nil, or_false] at h
    rcases h with rfl | rfl | rfl
    · exact restOfWord_append ['u', 'l', 'l'] rest
    · exact restOfWord_append ['r', 'u', 'e'] rest
    · exact restOfWord_append ['a', 'l', 's', 'e'] rest
  | text h =>
    cases h with
    | mk hparts =>
      have hskip := skipText_append hparts rest
      simpa only [List.cons_append, List.append_assoc, List.nil_append, skipScalar] using hskip
  | number h =>
    cases h with
    | @mk sign whole fraction exponent hsign hwhole hfraction hexponent =>
      have hskip := skipNumber_append hwhole hfraction hexponent hrest
      rw [← List.append_assoc fraction, ← List.append_assoc whole] at hskip
      simp only [List.mem_cons, List.not_mem_nil, or_false] at hsign
      rcases hsign with rfl | rfl
      · obtain ⟨d, ds, rfl, hd⟩ := hwhole.1.exists_cons
        have hne {c : Char} (h : ¬ c.isDigit = true) : d ≠ c := ne_of_isDigit hd h
        exact (skipScalar.eq_7 d _ (hne (by decide)) (hne (by decide)) (hne (by decide))
          (hne (by decide)) (hne (by decide))).trans ((if_pos hd).trans hskip)
      · exact hskip

end Scalars

def structural : List Char := ['[', '{', ']', '}', ' ', '\n', '\t', '\r']

theorem not_mem_structural_of_isDigit {d : Char} (hd : d.isDigit = true) : d ∉ structural := by
  intro hmem
  simp only [structural, List.mem_cons, List.not_mem_nil, or_false] at hmem
  rcases hmem with rfl | rfl | rfl | rfl | rfl | rfl | rfl | rfl <;> exact absurd hd (by decide)

theorem Scalar.exists_cons {cs : List Char} (h : Scalar cs) :
    ∃ c ds, cs = c :: ds ∧ c ∉ structural := by
  cases h with
  | word h =>
    simp only [words, List.mem_cons, List.not_mem_nil, or_false] at h
    rcases h with rfl | rfl | rfl <;> exact ⟨_, _, rfl, by decide⟩
  | text h =>
    cases h with
    | mk _ => exact ⟨_, _, rfl, by decide⟩
  | number h =>
    cases h with
    | mk hsign hwhole _ _ =>
      simp only [List.mem_cons, List.not_mem_nil, or_false] at hsign
      rcases hsign with rfl | rfl
      · obtain ⟨d, ds, rfl, hd⟩ := hwhole.1.exists_cons
        exact ⟨d, _, rfl, not_mem_structural_of_isDigit hd⟩
      · exact ⟨_, _, rfl, by decide⟩

theorem isBlank_of_not_mem_structural {c : Char} (h : c ∉ structural) : isBlank c = false := by
  rw [Bool.eq_false_iff]
  intro hblank
  rcases eq_of_isBlank hblank with rfl | rfl | rfl | rfl <;> exact h (by decide)

theorem WellFormed.exists_cons {cs : List Char} (h : WellFormed .value cs) :
    ∃ c ds, cs = c :: ds ∧ isBlank c = false ∧ c ≠ ']' := by
  cases h with
  | scalar h =>
    obtain ⟨c, ds, rfl, hc⟩ := h.exists_cons
    refine ⟨c, ds, rfl, isBlank_of_not_mem_structural hc, fun heq ↦ hc ?_⟩
    rw [heq]
    decide
  | @opened frame cs _ => exact ⟨_, _, rfl, by cases frame <;> exact ⟨rfl, by decide⟩⟩

theorem WellFormed.endsNumber {frame : Frame} {cs : List Char}
    (h : WellFormed (.inside frame false) cs) (rest : List Char) : EndsNumber (cs ++ rest) := by
  cases h with
  | closed hgap =>
    rw [List.append_assoc]
    exact endsNumber_append hgap (endsNumber_cons (by cases frame <;> decide) _)
  | part hlead _ _ _ =>
    cases hlead with
    | comma hgap _ =>
      rw [List.append_assoc, List.append_assoc]
      exact endsNumber_append hgap (endsNumber_cons (by decide) _)

/-- After `n` steps from the first state the search is in the second one, whatever fuel is left. -/
def Passes (n : Nat) (a b : Phase × List Frame × List Char) : Prop :=
  ∀ fuel, skipFrom (n + fuel) a.1 a.2.1 a.2.2 = skipFrom fuel b.1 b.2.1 b.2.2

theorem Passes.trans {n m : Nat} {a b c : Phase × List Frame × List Char} (h : Passes n a b)
    (h' : Passes m b c) : Passes (n + m) a c := by
  intro fuel
  rw [Nat.add_assoc, h, h']

def Phase.inside (first : Bool) : Phase := if first then .opened else .done

section Steps

variable {gap cs rest : List Char} {frames : List Frame} {frame : Frame}

theorem passes_scalar (hgap : Blanks gap) (h : Scalar cs) (hrest : EndsNumber rest) :
    Passes 1 (.value, frames, gap ++ (cs ++ rest)) (.done, frames, rest) := by
  intro fuel
  have hskip := skipScalar_append h hrest
  obtain ⟨c, ds, rfl, hc⟩ := h.exists_cons
  have hblank : skipBlank (gap ++ (c :: ds ++ rest)) = c :: ds ++ rest :=
    skipBlank_append_cons hgap (isBlank_of_not_mem_structural hc) (ds ++ rest)
  rw [Nat.add_comm, skipFrom.eq_2, hblank]
  split
  · next heq => cases heq
  · next heq =>
    obtain ⟨rfl, -⟩ := List.cons.inj heq
    exact absurd hc (by decide)
  · next heq =>
    obtain ⟨rfl, -⟩ := List.cons.inj heq
    exact absurd hc (by decide)
  · rw [hskip, ok_bind]

theorem passes_opened (hgap : Blanks gap) :
    Passes 1 (.value, frames, gap ++ frame.opener :: cs) (.opened, frame :: frames, cs) := by
  intro fuel
  have hblank : skipBlank (gap ++ frame.opener :: cs) = frame.opener :: cs :=
    skipBlank_append_cons hgap (by cases frame <;> rfl) cs
  rw [Nat.add_comm, skipFrom.eq_2, hblank]
  cases frame <;> rfl

theorem passes_closed (hgap : Blanks gap) (first : Bool) :
    Passes 1 (.inside first, frame :: frames, gap ++ frame.close :: rest) (.done, frames, rest) := by
  intro fuel
  have hblank : skipBlank (gap ++ frame.close :: rest) = frame.close :: rest :=
    skipBlank_append_cons hgap (by cases frame <;> rfl) rest
  have hcomma : frame.close ≠ ',' := by cases frame <;> decide
  cases first with
  | true =>
    rw [Nat.add_comm, Phase.inside, if_pos rfl, skipFrom.eq_4, hblank]
    exact if_pos rfl
  | false =>
    rw [Nat.add_comm, Phase.inside, if_neg Bool.false_ne_true, skipFrom.eq_6, hblank]
    exact (if_neg hcomma).trans (if_pos rfl)

theorem skipKey_append {key : List Char} (hkey : Key frame key) (hgap : Blanks gap)
    (rest : List Char) :
    ∃ gap', Blanks gap' ∧ skipKey frame (gap ++ (key ++ rest)) = .ok (gap' ++ rest) := by
  cases hkey with
  | list => exact ⟨gap, hgap, rfl⟩
  | @object text before behind htext hbefore hbehind =>
    cases htext with
    | @mk parts hparts =>
      have hblank := skipBlank_append_cons (c := '"') hgap rfl
      have htext := skipText_append hparts (before ++ ':' :: (behind ++ rest))
      have hcolon := skipColon_append hbefore (behind ++ rest)
      refine ⟨behind, hbehind, ?_⟩
      simp only [List.append_assoc, List.cons_append, List.nil_append, skipKey, hblank, htext, ok_bind,
        hcolon]

theorem exists_cons_of_key {key : List Char} (hkey : Key frame key) (h : WellFormed .value cs)
    (rest : List Char) :
    ∃ c ds, key ++ (cs ++ rest) = c :: ds ∧ isBlank c = false ∧ c ≠ frame.close := by
  cases hkey with
  | list =>
    obtain ⟨c, ds, rfl, hblank, hclose⟩ := h.exists_cons
    exact ⟨c, _, rfl, hblank, hclose⟩
  | object htext _ _ =>
    cases htext with
    | mk _ => exact ⟨_, _, rfl, rfl, by decide⟩

theorem passes_part {first : Bool} {lead key : List Char} (hlead : Lead first lead)
    (hkey : Key frame key) (h : WellFormed .value cs) (frames : List Frame) (rest : List Char) :
    ∃ gap, Blanks gap ∧ Passes 1 (.inside first, frame :: frames, lead ++ (key ++ (cs ++ rest)))
      (.value, frame :: frames, gap ++ (cs ++ rest)) := by
  cases hlead with
  | first hgap =>
    obtain ⟨c, ds, heq, hc, hclose⟩ := exists_cons_of_key hkey h rest
    obtain ⟨gap', hgap', hskip⟩ := skipKey_append hkey .nil (cs ++ rest)
    refine ⟨gap', hgap', fun fuel ↦ ?_⟩
    rw [List.nil_append, heq] at hskip
    rw [Nat.add_comm, Phase.inside, if_pos rfl, skipFrom.eq_4, heq, skipBlank_append_cons hgap hc]
    dsimp only
    rw [if_neg hclose, hskip, ok_bind]
  | @comma before behind hbefore hbehind =>
    obtain ⟨gap', hgap', hskip⟩ := skipKey_append hkey hbehind (cs ++ rest)
    refine ⟨gap', hgap', fun fuel ↦ ?_⟩
    rw [Nat.add_comm, Phase.inside, if_neg Bool.false_ne_true, skipFrom.eq_6, List.append_assoc,
      List.cons_append, skipBlank_append_cons hbefore rfl]
    dsimp only
    rw [if_pos rfl, hskip, ok_bind]

end Steps

/-- What stands at a place is passed over in steps of which there are fewer than twice as many as
characters. -/
def Skips : Place → List Char → Prop
  | .value, cs => ∃ n < 2 * cs.length, ∀ frames gap rest, Blanks gap → EndsNumber rest →
      Passes n (.value, frames, gap ++ (cs ++ rest)) (.done, frames, rest)
  | .inside frame first, cs => ∃ n < 2 * cs.length, ∀ frames rest,
      Passes n (.inside first, frame :: frames, cs ++ rest) (.done, frames, rest)

theorem WellFormed.skips {place : Place} {cs : List Char} (h : WellFormed place cs) :
    Skips place cs := by
  induction h with
  | scalar h =>
    obtain ⟨c, ds, rfl, -⟩ := h.exists_cons
    refine ⟨1, by rw [List.length_cons]; omega, fun frames gap rest hgap hrest ↦ ?_⟩
    exact passes_scalar hgap h hrest
  | opened _ ih =>
    obtain ⟨n, hn, hpasses⟩ := ih
    refine ⟨1 + n, by rw [List.length_cons]; omega, fun frames gap rest hgap _ ↦ ?_⟩
    exact (passes_opened hgap).trans (hpasses frames rest)
  | @closed frame first gap hgap =>
    refine ⟨1, by rw [List.length_append, List.length_singleton]; omega, fun frames rest ↦ ?_⟩
    rw [List.append_assoc, List.singleton_append]
    exact passes_closed hgap first
  | @part frame first lead key cs ds hlead hkey hvalue hinside ihvalue ihinside =>
    obtain ⟨n, hn, hpasses⟩ := ihvalue
    obtain ⟨m, hm, hpasses'⟩ := ihinside
    refine ⟨1 + n + m, by simp only [List.length_append]; omega, fun frames rest ↦ ?_⟩
    obtain ⟨gap, hgap, hstep⟩ := passes_part hlead hkey hvalue frames (ds ++ rest)
    have hends := hinside.endsNumber rest
    simp only [List.append_assoc]
    exact (hstep.trans (hpasses _ gap _ hgap hends)).trans (hpasses' frames rest)

theorem skipValue_append {gap cs rest : List Char} (h : WellFormed .value cs) (hgap : Blanks gap)
    (hrest : EndsNumber rest) : skipValue (gap ++ (cs ++ rest)) = .ok rest := by
  obtain ⟨n, hn, hpasses⟩ := h.skips
  have hlen : (gap ++ (cs ++ rest)).length = gap.length + (cs.length + rest.length) := by
    simp only [List.length_append]
  obtain ⟨fuel, hfuel⟩ : ∃ fuel, 2 * (gap ++ (cs ++ rest)).length + 2 = n + (fuel + 1) :=
    ⟨2 * (gap ++ (cs ++ rest)).length + 1 - n, by omega⟩
  rw [skipValue, hfuel, hpasses [] gap rest hgap hrest]
  exact skipFrom.eq_5 rest fuel

end ManifestLint.Json
