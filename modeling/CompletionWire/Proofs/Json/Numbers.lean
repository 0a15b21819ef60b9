import CompletionWire.Json.Reader
import CompletionWire.Proofs.Json.Grammar
import Mathlib.Data.List.TakeWhile

/-!
# Reading numbers

The reader takes as many digits as there are, so a number of the grammar is read whole only if what
follows could not continue it. Each part is read back from the text that writes it, and what is read
is a part of the grammar.
-/

namespace CompletionWire

namespace Json

namespace Reader

open Grammar

/-! ### Digits -/

theorem digitsValue_eq_number (ds : Text) : digitsValue ds = Grammar.number ds := by
  rw [digitsValue, Grammar.number, Nat.ofDigits_eq_foldr, List.foldr_map, List.foldr_reverse]
  congr 1
  funext n c
  simp only [Nat.cast_id]
  ring

def EndsDigits (rest : Text) : Prop := ∀ c, rest.head? = some c → c.isAsciiDigit = false

theorem endsDigits_cons {c : CodePoint} (hc : c.isAsciiDigit = false) (rest : Text) :
    EndsDigits (c :: rest) := by
  intro d hd
  rwa [← Option.some.inj hd]

theorem cutDigits_append {ds rest : Text} (hds : ∀ c ∈ ds, c.isAsciiDigit = true)
    (hrest : EndsDigits rest) : cutDigits (ds ++ rest) = (ds, rest) := by
  rw [cutDigits, List.takeWhile_append_of_pos hds, List.dropWhile_append_of_pos hds]
  cases rest with
  | nil => simp
  | cons c rest => simp [hrest c rfl]

theorem isDigits_of_cutDigits {t ds rest : Text} (h : cutDigits t = (ds, rest)) (hne : ds ≠ []) :
    IsDigits ds ∧ t = ds ++ rest := by
  obtain ⟨rfl, rfl⟩ := Prod.mk.inj h
  exact ⟨⟨hne, fun c hc => List.mem_takeWhile_imp hc⟩, List.takeWhile_append_dropWhile.symm⟩

/-! ### Parts of a number -/

theorem wholePart?_append {w rest : Text} (hw : IsWhole w) (hrest : EndsDigits rest) :
    wholePart? (w ++ rest) = some (w, rest) := by
  obtain ⟨⟨hne, hdigits⟩, hzero⟩ := hw
  obtain ⟨c, ds, rfl⟩ := List.exists_cons_of_ne_nil hne
  by_cases hc : c.val = 0x30
  · obtain rfl : ds = [] := by simpa [hc] using hzero
    simp [wholePart?, hc]
  · have hdigit : c.isAsciiDigit = true := hdigits c List.mem_cons_self
    rw [List.cons_append]
    simp only [wholePart?, hc, hdigit, if_true, if_false]
    rw [← List.cons_append, cutDigits_append hdigits hrest]

theorem isWhole_of_wholePart? {t w rest : Text} (h : wholePart? t = some (w, rest)) :
    IsWhole w ∧ t = w ++ rest := by
  unfold wholePart? at h
  split at h
  · cases h
  · rename_i c behind
    split_ifs at h with hzero hdigit
    · obtain ⟨rfl, rfl⟩ := Prod.mk.inj (Option.some.inj h)
      have hdigit : c.isAsciiDigit = true := by simp [CodePoint.isAsciiDigit, hzero]
      exact ⟨⟨⟨by simp, by simpa using hdigit⟩, by simp⟩, rfl⟩
    · have hcut := Option.some.inj h
      have hne : w ≠ [] := by
        intro heq
        subst heq
        simp [cutDigits, hdigit] at hcut
      obtain ⟨hdigits, ht⟩ := isDigits_of_cutDigits hcut hne
      refine ⟨⟨hdigits, fun hhead => ?_⟩, ht⟩
      obtain ⟨d, ds, rfl⟩ := List.exists_cons_of_ne_nil hne
      obtain ⟨rfl, -⟩ := List.cons.inj ht
      exact absurd (Option.some.inj hhead) hzero

theorem fractionPart?_append {ds rest : Text} (hds : IsDigits ds) (hrest : EndsDigits rest) :
    fractionPart? (CodePoint.ofChar '.' :: (ds ++ rest)) = some (ds, rest) := by
  obtain ⟨hne, hdigits⟩ := hds
  obtain ⟨d, ds, rfl⟩ := List.exists_cons_of_ne_nil hne
  have hd : d.isAsciiDigit = true := hdigits d List.mem_cons_self
  rw [List.cons_append]
  simp only [fractionPart?, hd, and_self, if_true]
  rw [← List.cons_append, cutDigits_append hdigits hrest]

theorem fractionPart?_eq_none {t : Text} (h : t.head? ≠ some (CodePoint.ofChar '.')) :
    fractionPart? t = none := by
  unfold fractionPart?
  split
  · rename_i c d rest
    have hc : c ≠ CodePoint.ofChar '.' := fun hc => h (by rw [hc]; rfl)
    simp [hc]
  · rfl

theorem isDigits_of_fractionPart? {t ds rest : Text} (h : fractionPart? t = some (ds, rest)) :
    IsDigits ds ∧ t = CodePoint.ofChar '.' :: (ds ++ rest) := by
  unfold fractionPart? at h
  split at h
  · rename_i c d behind
    split_ifs at h with hpoint
    have hcut := Option.some.inj h
    have hne : ds ≠ [] := by
      intro heq
      subst heq
      simp [cutDigits, hpoint.2] at hcut
    obtain ⟨hdigits, ht⟩ := isDigits_of_cutDigits hcut hne
    exact ⟨hdigits, by rw [hpoint.1, ht]⟩
  · cases h

theorem asciiLower_eq_e_iff {c : CodePoint} :
    c.asciiLower = CodePoint.ofChar 'e' ↔ c = CodePoint.ofChar 'e' ∨ c = CodePoint.ofChar 'E' := by
  have he : (CodePoint.ofChar 'e').val = 0x65 := rfl
  have hcapital : (CodePoint.ofChar 'E').val = 0x45 := rfl
  simp only [CodePoint.ext_iff, he, hcapital, CodePoint.asciiLower]
  split
  · rw [CodePoint.val_ofNat (by omega)]
    omega
  · omega

/-- What stands behind the sign of an exponent does not begin with a sign that was left out. -/
def EndsSign (s body : Text) : Prop :=
  s = [] → ∀ c, body.head? = some c → c ≠ CodePoint.ofChar '-' ∧ c ≠ CodePoint.ofChar '+'

theorem exists_exponentSign (t : Text) :
    ∃ s negative body, IsExponentSign s negative ∧ EndsSign s body ∧ t = s ++ body := by
  cases t with
  | nil => exact ⟨[], false, [], .absent, fun _ c hc => (nomatch hc), rfl⟩
  | cons c body =>
    by_cases hminus : c = CodePoint.ofChar '-'
    · exact ⟨[c], true, body, hminus ▸ .minus, fun h => (nomatch h), rfl⟩
    · by_cases hplus : c = CodePoint.ofChar '+'
      · exact ⟨[c], false, body, hplus ▸ .plus, fun h => (nomatch h), rfl⟩
      · refine ⟨[], false, c :: body, .absent, fun _ d hd => ?_, rfl⟩
        rw [← Option.some.inj hd]
        exact ⟨hminus, hplus⟩

theorem exponentPart?_cons {mark : CodePoint}
    (hmark : mark = CodePoint.ofChar 'e' ∨ mark = CodePoint.ofChar 'E') {s : Text}
    {negative : Bool} (hs : IsExponentSign s negative) {body : Text} (hbody : EndsSign s body) :
    exponentPart? (mark :: (s ++ body)) =
      if (cutDigits body).1.isEmpty then none
      else some (Numeral.signed negative (digitsValue (cutDigits body).1), (cutDigits body).2) := by
  have hlower := asciiLower_eq_e_iff.2 hmark
  have hplus : CodePoint.ofChar '+' ≠ CodePoint.ofChar '-' := by decide
  cases hs with
  | absent =>
    cases body with
    | nil => simp [exponentPart?, hlower, cutDigits]
    | cons c body =>
      obtain ⟨hminus, hplus⟩ := hbody rfl c rfl
      simp [exponentPart?, hlower, hminus, hplus, Numeral.signed]
  | plus => simp [exponentPart?, hlower, hplus, Numeral.signed]
  | minus => simp [exponentPart?, hlower, Numeral.signed]

theorem exponentPart?_append {x rest : Text} {e : Int} (hx : IsExponent x e)
    (hrest : EndsDigits rest) : exponentPart? (x ++ rest) = some (e, rest) := by
  cases hx with
  | @digits mark s ds negative hmark hs hds =>
    obtain ⟨hne, hdigits⟩ := hds
    have hsign : EndsSign s (ds ++ rest) := by
      intro _ c hc
      obtain ⟨d, ds, rfl⟩ := List.exists_cons_of_ne_nil hne
      have hdigit : c.isAsciiDigit = true := by
        rw [← Option.some.inj hc]
        exact hdigits d List.mem_cons_self
      constructor
      · intro heq
        subst heq
        exact absurd hdigit (by decide)
      · intro heq
        subst heq
        exact absurd hdigit (by decide)
    rw [List.cons_append, List.append_assoc, exponentPart?_cons hmark hs hsign,
      cutDigits_append hdigits hrest, if_neg (by simpa using hne), digitsValue_eq_number]

theorem exponentPart?_eq_none {t : Text}
    (h : ∀ c, t.head? = some c → ¬(c = CodePoint.ofChar 'e' ∨ c = CodePoint.ofChar 'E')) :
    exponentPart? t = none := by
  cases t with
  | nil => rfl
  | cons c rest => simp [exponentPart?, asciiLower_eq_e_iff, h c rfl]

theorem exists_isExponent_of_exponentPart? {t rest : Text} {e : Int}
    (h : exponentPart? t = some (e, rest)) : ∃ x, IsExponent x e ∧ t = x ++ rest := by
  cases t with
  | nil => cases h
  | cons mark behind =>
    by_cases hmark : mark = CodePoint.ofChar 'e' ∨ mark = CodePoint.ofChar 'E'
    · obtain ⟨s, negative, body, hs, hbody, rfl⟩ := exists_exponentSign behind
      rcases hcut : cutDigits body with ⟨ds, rest'⟩
      rw [exponentPart?_cons hmark hs hbody, hcut] at h
      split_ifs at h with hempty
      obtain ⟨rfl, rfl⟩ := Prod.mk.inj (Option.some.inj h)
      obtain ⟨hds, rfl⟩ := isDigits_of_cutDigits hcut (by simpa using hempty)
      rw [digitsValue_eq_number]
      exact ⟨mark :: (s ++ ds), .digits hmark hs hds, by
        rw [List.cons_append, List.append_assoc]⟩
    · rw [exponentPart?_eq_none fun c hc => by rwa [← Option.some.inj hc]] at h
      cases h

/-! ### Numbers -/

def EndsNumber (rest : Text) : Prop :=
  ∀ c, rest.head? = some c → c.isAsciiDigit = false ∧ c ≠ CodePoint.ofChar '.' ∧
    ¬(c = CodePoint.ofChar 'e' ∨ c = CodePoint.ofChar 'E')

theorem EndsNumber.digits {rest : Text} (h : EndsNumber rest) : EndsDigits rest :=
  fun c hc => (h c hc).1

theorem EndsNumber.fractionPart? {rest : Text} (h : EndsNumber rest) :
    Reader.fractionPart? rest = none :=
  fractionPart?_eq_none fun hc => (h _ hc).2.1 rfl

theorem EndsNumber.exponentPart? {rest : Text} (h : EndsNumber rest) :
    Reader.exponentPart? rest = none :=
  exponentPart?_eq_none fun c hc => (h c hc).2.2

theorem unsignedNumber_whole {rules : Rules} {w rest : Text} (hw : IsWhole w)
    (hlimit : ∀ limit, rules.maxDigits? = some limit → w.length ≤ limit) (hrest : EndsNumber rest)
    (start : Text) (negative : Bool) :
    unsignedNumber rules start negative (w ++ rest) =
      .ok (.int (Numeral.signed negative (Grammar.number w)), rest) := by
  have hany : rules.maxDigits?.any (· < w.length) = false := by
    cases hmax : rules.maxDigits? with
    | none => rfl
    | some limit => simpa using hlimit limit hmax
  simp only [unsignedNumber, wholePart?_append hw hrest.digits, hrest.fractionPart?,
    hrest.exponentPart?, Option.getD_none, wholeNumber, hany, digitsValue_eq_number]
  rfl

theorem unsignedNumber_fraction {rules : Rules} {w ds rest : Text} (hw : IsWhole w)
    (hds : IsDigits ds) (hrest : EndsNumber rest) (start : Text) (negative : Bool) :
    unsignedNumber rules start negative (w ++ CodePoint.ofChar '.' :: (ds ++ rest)) =
      .ok (.float (.ofDecimal negative (Grammar.number (w ++ ds)) (-ds.length)), rest) := by
  have hpoint : EndsDigits (CodePoint.ofChar '.' :: (ds ++ rest)) := endsDigits_cons (by decide) _
  simp only [unsignedNumber, wholePart?_append hw hpoint, fractionPart?_append hds hrest.digits,
    hrest.exponentPart?, Option.getD_some, digitsValue_eq_number]
  rfl

theorem unsignedNumber_exponent {rules : Rules} {w f ds x rest : Text} {e : Int} (hw : IsWhole w)
    (hf : IsFraction f ds) (hx : IsExponent x e) (hrest : EndsNumber rest) (start : Text)
    (negative : Bool) :
    unsignedNumber rules start negative (w ++ (f ++ (x ++ rest))) =
      .ok (.float (.ofDecimal negative (Grammar.number (w ++ ds)) (e - ds.length)), rest) := by
  have hexponent := exponentPart?_append hx hrest.digits
  have hhead (c : CodePoint) (hc : (x ++ rest).head? = some c) :
      c.isAsciiDigit = false ∧ c ≠ CodePoint.ofChar '.' := by
    cases hx with
    | digits hmark hs hds =>
      rw [← Option.some.inj hc]
      rcases hmark with rfl | rfl <;> exact ⟨by decide, by decide⟩
  have hends : EndsDigits (x ++ rest) := fun c hc => (hhead c hc).1
  cases hf with
  | absent =>
    have hnone : fractionPart? (x ++ rest) = none :=
      fractionPart?_eq_none fun hc => (hhead _ hc).2 rfl
    simp only [unsignedNumber, List.nil_append, wholePart?_append hw hends, hnone,
      Option.getD_none, hexponent, digitsValue_eq_number]
  | digits hds =>
    have hpoint : EndsDigits (CodePoint.ofChar '.' :: (ds ++ (x ++ rest))) :=
      endsDigits_cons (by decide) _
    simp only [unsignedNumber, List.cons_append, wholePart?_append hw hpoint,
      fractionPart?_append hds hends, Option.getD_some, hexponent, digitsValue_eq_number]

theorem isFraction_getD_fractionPart? {t ds rest : Text}
    (h : (fractionPart? t).getD ([], t) = (ds, rest)) : ∃ f, IsFraction f ds ∧ t = f ++ rest := by
  cases hf : fractionPart? t with
  | none =>
    rw [hf] at h
    obtain ⟨rfl, rfl⟩ := Prod.mk.inj h
    exact ⟨[], .absent, rfl⟩
  | some found =>
    rw [hf] at h
    obtain rfl : found = (ds, rest) := h
    obtain ⟨hds, ht⟩ := isDigits_of_fractionPart? hf
    exact ⟨_, .digits hds, ht⟩

theorem limit_of_wholeNumber {rules : Rules} {negative : Bool} {w : Text} {v : Json}
    (h : wholeNumber rules negative w = .ok v) :
    (∀ limit, rules.maxDigits? = some limit → w.length ≤ limit) ∧
      v = .int (Numeral.signed negative (Grammar.number w)) := by
  rw [wholeNumber, digitsValue_eq_number, ← Numeral.signed] at h
  by_cases hany : rules.maxDigits?.any (· < w.length) = true
  · rw [if_pos hany] at h
    cases h
  · rw [if_neg hany] at h
    exact ⟨fun limit hlimit => by simpa [hlimit] using hany, (Except.ok.inj h).symm⟩

theorem exists_isNumber_of_unsignedNumber {rules : Rules} {start t rest : Text} {negative : Bool}
    {v : Json} (h : unsignedNumber rules start negative t = .ok (v, rest)) :
    ∃ w, IsNumber rules.maxDigits? (sign negative ++ w) v ∧ t = w ++ rest := by
  unfold unsignedNumber at h
  split at h
  · cases h
  · rename_i w afterWhole hwhole
    obtain ⟨hw, rfl⟩ := isWhole_of_wholePart? hwhole
    rcases hfraction : (fractionPart? afterWhole).getD ([], afterWhole) with ⟨ds, afterFraction⟩
    simp only [hfraction, digitsValue_eq_number] at h
    split at h
    · rename_i e behind hexponent
      obtain ⟨rfl, rfl⟩ := Prod.mk.inj (Except.ok.inj h)
      obtain ⟨f, hf, rfl⟩ := isFraction_getD_fractionPart? hfraction
      obtain ⟨x, hx, rfl⟩ := exists_isExponent_of_exponentPart? hexponent
      exact ⟨w ++ (f ++ x), .exponent negative hw hf hx, by simp only [List.append_assoc]⟩
    · cases hsome : fractionPart? afterWhole with
      | some found =>
        rw [hsome] at hfraction
        obtain rfl : found = (ds, afterFraction) := hfraction
        obtain ⟨hds, rfl⟩ := isDigits_of_fractionPart? hsome
        simp only [hsome, Option.isSome_some, if_true] at h
        obtain ⟨rfl, rfl⟩ := Prod.mk.inj (Except.ok.inj h)
        exact ⟨w ++ CodePoint.ofChar '.' :: ds, .fraction negative hw hds, by simp⟩
      | none =>
        simp only [hsome, Option.isSome_none, Bool.false_eq_true, if_false] at h
        cases hnumber : wholeNumber rules negative w with
        | error fault =>
          rw [hnumber] at h
          cases h
        | ok n =>
          rw [hnumber] at h
          obtain ⟨rfl, rfl⟩ := Prod.mk.inj (Except.ok.inj h)
          obtain ⟨hlimit, rfl⟩ := limit_of_wholeNumber hnumber
          exact ⟨w, .whole negative hw hlimit, rfl⟩

theorem number_sign (rules : Rules) (negative : Bool) {w : Text} (hw : IsWhole w) (rest : Text) :
    number rules (sign negative ++ (w ++ rest)) =
      unsignedNumber rules (sign negative ++ (w ++ rest)) negative (w ++ rest) := by
  obtain ⟨⟨hne, hdigits⟩, -⟩ := hw
  obtain ⟨d, ds, rfl⟩ := List.exists_cons_of_ne_nil hne
  cases negative with
  | true => rfl
  | false =>
    have hd : d ≠ CodePoint.ofChar '-' := by
      intro heq
      subst heq
      exact absurd (hdigits _ List.mem_cons_self) (by decide)
    simp [number, sign, hd]

theorem number_of_isNumber {rules : Rules} {w rest : Text} {v : Json}
    (h : IsNumber rules.maxDigits? w v) (hrest : EndsNumber rest) :
    number rules (w ++ rest) = .ok (v, rest) := by
  cases h with
  | whole negative hw hlimit =>
    rw [List.append_assoc, number_sign rules negative hw]
    exact unsignedNumber_whole hw hlimit hrest _ negative
  | fraction negative hw hds =>
    simp only [List.append_assoc, List.cons_append]
    rw [number_sign rules negative hw]
    exact unsignedNumber_fraction hw hds hrest _ negative
  | exponent negative hw hf hx =>
    simp only [List.append_assoc]
    rw [number_sign rules negative hw]
    exact unsignedNumber_exponent hw hf hx hrest _ negative

theorem exists_isNumber_of_number {rules : Rules} {t rest : Text} {v : Json}
    (h : number rules t = .ok (v, rest)) : ∃ w, IsNumber rules.maxDigits? w v ∧ t = w ++ rest := by
  cases t with
  | nil => cases h
  | cons c body =>
    by_cases hminus : c = CodePoint.ofChar '-'
    · subst hminus
      obtain ⟨w, hw, rfl⟩ := exists_isNumber_of_unsignedNumber h
      exact ⟨_, hw, rfl⟩
    · rw [number, if_neg hminus] at h
      exact exists_isNumber_of_unsignedNumber h

end Reader

end Json

end CompletionWire
