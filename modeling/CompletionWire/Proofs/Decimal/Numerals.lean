import CompletionWire.Decimal.Numeral
import CompletionWire.Proofs.Json.Numerals
import CompletionWire.Proofs.Text.Trimming

/-!
# Numerals of whole numbers

Which texts are numerals, and which number each of them writes: digits of any scripts that stand for
their places, a sign in front of them that may be left out, and padding around the whole. Reading
takes just these texts. The decimal digits of a whole number are one of its numerals, so it is read
back as long as a numeral may be that long.
-/

namespace CompletionWire

namespace Numeral

/-! ### The grammar -/

/-- What may stand around a numeral: in ASCII a space or a control character from tab to carriage
return, and beyond ASCII any blank. -/
def isPadding (c : CodePoint) : Bool :=
  if c.val < 0x80 then c.val = 0x20 || (9 ≤ c.val && c.val ≤ 0xD) else c.isBlank

/-- What follows a digit of a numeral, with the values of the digits in it: each of these stands
directly behind the one before it, or behind one underscore. -/
inductive DigitsBehind : Text → List Nat → Prop
  | nil : DigitsBehind [] []
  | next {c : CodePoint} {d : Nat} {t : Text} {ds : List Nat} (hc : c.decimalValue? = some d)
      (h : DigitsBehind t ds) : DigitsBehind (c :: t) (d :: ds)
  | separated {c : CodePoint} {d : Nat} {t : Text} {ds : List Nat}
      (hc : c.decimalValue? = some d) (h : DigitsBehind t ds) :
      DigitsBehind (underscore :: c :: t) (d :: ds)

/-- Digits of any scripts, at least one of them, with their values. -/
inductive AreDigits : Text → List Nat → Prop
  | first {c : CodePoint} {d : Nat} {t : Text} {ds : List Nat} (hc : c.decimalValue? = some d)
      (h : DigitsBehind t ds) : AreDigits (c :: t) (d :: ds)

/-- The number that digits form, the last of them counting ones. -/
def positional (ds : List Nat) : Nat := Nat.ofDigits 10 ds.reverse

def signs : List (Text × Bool) := [([], false), ([plusSign], false), ([minusSign], true)]

inductive IsNumeral : Text → Int → Prop
  | padded {sign digits t : Text} {negative : Bool} {ds : List Nat}
      (hsign : (sign, negative) ∈ signs) (hdigits : AreDigits digits ds)
      (hcount : ds.length ≤ 4300) (hpads : Text.Pads isPadding (sign ++ digits) t) :
      IsNumeral t (signed negative (positional ds))

variable {c : CodePoint} {d : Nat} {t : Text} {ds : List Nat} {read digits : Digits}

/-! ### Digits -/

theorem decimalValue?_underscore : underscore.decimalValue? = none := by decide

theorem decimalValue?_eq_some (hc : c.decimalValue? = some d) :
    ∃ first ∈ CodePoint.digitZeros, c.val = first + d ∧ d < 10 := by
  obtain ⟨first, hfind, rfl⟩ := Option.map_eq_some_iff.1 hc
  have hrange := List.find?_some hfind
  simp only [Bool.and_eq_true, decide_eq_true_eq] at hrange
  exact ⟨first, List.mem_of_find?_eq_some hfind, by omega, by omega⟩

theorem AreDigits.digitsBehind (h : AreDigits t ds) : DigitsBehind t ds := by
  cases h with
  | first hc h => exact .next hc h

theorem lt_of_digitsBehind (h : DigitsBehind t ds) : ∀ d ∈ ds, d < 10 := by
  have hlt {c : CodePoint} {d : Nat} (hc : c.decimalValue? = some d) : d < 10 := by
    obtain ⟨-, -, -, hd⟩ := decimalValue?_eq_some hc
    exact hd
  induction h with
  | nil => exact List.forall_mem_nil _
  | next hc _ ih | separated hc _ ih => exact List.forall_mem_cons.2 ⟨hlt hc, ih⟩

theorem positional_cons (d : Nat) (ds : List Nat) :
    positional (d :: ds) = d * 10 ^ ds.length + positional ds := by
  simp only [positional, List.reverse_cons, Nat.ofDigits_append, Nat.ofDigits_singleton,
    List.length_reverse]
  ring

theorem foldl_push (read : Digits) (ds : List Nat) :
    ds.foldl Digits.push read =
      ⟨read.count + ds.length, read.value * 10 ^ ds.length + positional ds⟩ := by
  induction ds generalizing read with
  | nil => simp [positional]
  | cons d ds ih =>
    rw [List.foldl_cons, ih, positional_cons]
    simp only [Digits.push, List.length_cons, Digits.mk.injEq, Nat.pow_succ]
    exact ⟨by omega, by ring⟩

theorem takeDigits_of_digitsBehind (h : DigitsBehind t ds) (hread : 0 < read.count) :
    takeDigits CodePoint.decimalValue? read t = (ds.foldl Digits.push read, []) := by
  induction h generalizing read with
  | nil => rfl
  | next hc h ih =>
    rw [takeDigits, hc]
    exact ih (Nat.succ_pos _)
  | @separated c d t ds hc h ih =>
    have hnext : ((c :: t).head?.bind CodePoint.decimalValue?).isSome = true := by simp [hc]
    rw [takeDigits, decimalValue?_underscore]
    dsimp only
    rw [if_pos ⟨rfl, hread, hnext⟩, takeDigits, hc]
    exact ih (Nat.succ_pos _)

theorem exists_digitsBehind (h : takeDigits CodePoint.decimalValue? read t = (digits, [])) :
    ∃ ds, DigitsBehind t ds ∧ digits = ds.foldl Digits.push read := by
  fun_induction takeDigits CodePoint.decimalValue? read t with
  | case1 read => exact ⟨[], .nil, (congrArg Prod.fst h).symm⟩
  | case2 read c t d hc ih =>
    obtain ⟨ds, hds, hdigits⟩ := ih h
    exact ⟨d :: ds, .next hc hds, hdigits⟩
  | case3 read c t hc hunderscore ih =>
    obtain ⟨ds, hds, hdigits⟩ := ih h
    obtain ⟨rfl, -, hnext⟩ := hunderscore
    cases hds with
    | nil => cases hnext
    | next hfirst hrest => exact ⟨_, .separated hfirst hrest, hdigits⟩
    | separated => simp [decimalValue?_underscore] at hnext
  | case4 => cases congrArg Prod.snd h

theorem takeDigits_of_areDigits (h : AreDigits t ds) :
    takeDigits CodePoint.decimalValue? {} t = (⟨ds.length, positional ds⟩, []) := by
  cases h with
  | @first c d t ds hc h =>
    rw [takeDigits, hc]
    dsimp only
    rw [takeDigits_of_digitsBehind h (Nat.succ_pos _), ← List.foldl_cons, foldl_push]
    simp

theorem exists_areDigits (h : takeDigits CodePoint.decimalValue? {} t = (digits, []))
    (hcount : 0 < digits.count) : ∃ ds, AreDigits t ds ∧ digits = ⟨ds.length, positional ds⟩ := by
  cases t with
  | nil =>
    cases congrArg Prod.fst h
    cases hcount
  | cons c t =>
    rw [takeDigits] at h
    cases hc : c.decimalValue? with
    | none =>
      rw [hc] at h
      dsimp only at h
      rw [if_neg (by simp)] at h
      cases congrArg Prod.snd h
    | some d =>
      rw [hc] at h
      obtain ⟨ds, hds, hdigits⟩ := exists_digitsBehind h
      refine ⟨d :: ds, .first hc hds, ?_⟩
      rw [hdigits, ← List.foldl_cons, foldl_push]
      simp

/-! ### Signs and padding -/

theorem isPadding_eq_isBlank : isPadding = isBlank := by
  funext c
  rw [Bool.eq_iff_iff, isPadding]
  split <;>
    simp only [isBlank, CodePoint.isBlank, CodePoint.isWhiteSpace,
      CodePoint.isInformationSeparator, Bool.or_eq_true, Bool.and_eq_true, decide_eq_true_eq] <;>
    omega

theorem isBlank_of_decimalValue? (hc : c.decimalValue? = some d) : isBlank c = false := by
  have hall : ∀ first ∈ CodePoint.digitZeros, ∀ d < 10,
      isBlank (CodePoint.ofNat (first + d)) = false := by decide +kernel
  obtain ⟨first, hfirst, hval, hd⟩ := decimalValue?_eq_some hc
  have hnumber := hall first hfirst d hd
  rwa [← hval, CodePoint.ofNat_val] at hnumber

theorem isBlank_of_digitsBehind (h : DigitsBehind t ds) : ∀ c ∈ t, isBlank c = false := by
  induction h with
  | nil => exact List.forall_mem_nil _
  | next hc _ ih => exact List.forall_mem_cons.2 ⟨isBlank_of_decimalValue? hc, ih⟩
  | separated hc _ ih =>
    exact List.forall_mem_cons.2
      ⟨by decide, List.forall_mem_cons.2 ⟨isBlank_of_decimalValue? hc, ih⟩⟩

theorem isBlank_of_mem_signs {sign : Text} {negative : Bool} (hsign : (sign, negative) ∈ signs) :
    ∀ c ∈ sign, isBlank c = false := by
  have hall : ∀ s ∈ signs, ∀ c ∈ s.1, isBlank c = false := by decide
  exact hall _ hsign

theorem cutSign_append {sign : Text} {negative : Bool} (hsign : (sign, negative) ∈ signs)
    (h : AreDigits t ds) : cutSign (sign ++ t) = (negative, t) := by
  cases h with
  | @first c d t ds hc h =>
    have hno {sign : CodePoint} (hsign : sign.decimalValue? = none) : c ≠ sign := by
      rintro rfl
      cases hc.symm.trans hsign
    have hminus : c ≠ minusSign := hno (by decide)
    have hplus : c ≠ plusSign := hno (by decide)
    simp only [signs, List.mem_cons, Prod.mk.injEq, List.not_mem_nil, or_false] at hsign
    rcases hsign with ⟨rfl, rfl⟩ | ⟨rfl, rfl⟩ | ⟨rfl, rfl⟩
    · rw [List.nil_append, cutSign, if_neg hminus, if_neg hplus]
    · rfl
    · rfl

theorem exists_sign (t : Text) :
    ∃ sign, (sign, (cutSign t).1) ∈ signs ∧ t = sign ++ (cutSign t).2 := by
  cases t with
  | nil => exact ⟨[], by decide, rfl⟩
  | cons c t =>
    rw [cutSign]
    split_ifs with hminus hplus
    · exact ⟨[minusSign], by simp [signs], by rw [hminus]; rfl⟩
    · exact ⟨[plusSign], by simp [signs], by rw [hplus]; rfl⟩
    · exact ⟨[], by simp [signs], rfl⟩

/-! ### Reading -/

theorem isNumeral_of_int? {n : Int} (h : int? t = some n) : IsNumeral t n := by
  obtain ⟨sign, hsign, htrim⟩ := exists_sign (t.trimBy isBlank)
  have hpads : Text.Pads isPadding (sign ++ (cutSign (t.trimBy isBlank)).2) t := by
    rw [← htrim, isPadding_eq_isBlank]
    exact Text.pads_trimBy isBlank t
  unfold int? at h
  dsimp only at h
  split at h
  · rename_i digits hdigits
    split_ifs at h with hcount
    obtain ⟨ds, hds, rfl⟩ := exists_areDigits hdigits hcount.1
    rw [← Option.some.inj h]
    exact .padded hsign hds hcount.2 hpads
  · cases h

theorem int?_of_isNumeral {n : Int} (h : IsNumeral t n) : int? t = some n := by
  cases h with
  | @padded sign digits _ negative ds hsign hdigits hcount hpads =>
    have hword : ∀ c ∈ sign ++ digits, isBlank c = false :=
      List.forall_mem_append.2 ⟨isBlank_of_mem_signs hsign,
        isBlank_of_digitsBehind hdigits.digitsBehind⟩
    have hpos : 0 < ds.length := by
      cases hdigits
      exact Nat.succ_pos _
    have hlimit : 0 < ds.length ∧ ds.length ≤ maxDigits := ⟨hpos, hcount⟩
    rw [isPadding_eq_isBlank] at hpads
    simp only [int?, hpads.trimBy_eq hword, cutSign_append hsign hdigits,
      takeDigits_of_areDigits hdigits, if_pos hlimit]

theorem int?_eq_some_iff {n : Int} : int? t = some n ↔ IsNumeral t n :=
  ⟨isNumeral_of_int?, int?_of_isNumeral⟩

/-- A whole number has no more digits than a numeral may have. -/
theorem natAbs_lt_of_int? {n : Int} (h : int? t = some n) : n.natAbs < 10 ^ 4300 := by
  cases isNumeral_of_int? h with
  | @padded sign digits _ negative ds hsign hdigits hcount hpads =>
    have habs : (signed negative (positional ds)).natAbs = positional ds := by
      cases negative <;> simp [signed]
    have hpow {limit : Nat} (hlimit : ds.length ≤ limit) : 10 ^ ds.length ≤ 10 ^ limit :=
      Nat.pow_le_pow_right (by decide) hlimit
    have hlt : positional ds < 10 ^ ds.reverse.length :=
      Nat.ofDigits_lt_base_pow_length (by decide) fun d hd =>
        lt_of_digitsBehind hdigits.digitsBehind d (List.mem_reverse.1 hd)
    rw [habs]
    rw [List.length_reverse] at hlt
    exact Nat.lt_of_lt_of_le hlt (hpow hcount)

/-! ### Whole numbers -/

open Json.Grammar (IsDigits number)

theorem decimalValue?_of_isAsciiDigit (hc : c.isAsciiDigit = true) :
    c.decimalValue? = some (c.val - 0x30) := by
  have hzeros : CodePoint.digitZeros = 0x30 :: CodePoint.digitZeros.tail := rfl
  have hfirst : (decide (0x30 ≤ c.val) && decide (c.val ≤ 0x30 + 9)) = true := hc
  rw [CodePoint.decimalValue?, hzeros, List.find?_cons, hfirst]
  rfl

theorem areDigits_of_isDigits (h : IsDigits t) : AreDigits t (t.map fun c => c.val - 0x30) := by
  obtain ⟨hne, hforall⟩ := h
  have hbehind {t : Text} (ht : ∀ c ∈ t, c.isAsciiDigit = true) :
      DigitsBehind t (t.map fun c => c.val - 0x30) := by
    induction t with
    | nil => exact .nil
    | cons c t ih =>
      obtain ⟨hc, ht⟩ := List.forall_mem_cons.1 ht
      exact .next (decimalValue?_of_isAsciiDigit hc) (ih ht)
  obtain ⟨c, t, rfl⟩ := List.exists_cons_of_ne_nil hne
  obtain ⟨hc, ht⟩ := List.forall_mem_cons.1 hforall
  exact .first (decimalValue?_of_isAsciiDigit hc) (hbehind ht)

theorem isNumeral_of_isDigits (sign : Text) (negative : Bool) (hsign : (sign, negative) ∈ signs)
    (hdigits : IsDigits t) (hlength : t.length ≤ 4300) :
    IsNumeral (sign ++ t) (signed negative (number t)) := by
  have hnumber : positional (t.map fun c => c.val - 0x30) = number t := by
    rw [positional, ← List.map_reverse]
    rfl
  have hpads : Text.Pads isPadding (sign ++ t) (sign ++ t) :=
    ⟨[], [], List.forall_mem_nil _, List.forall_mem_nil _, by simp⟩
  rw [← hnumber]
  exact .padded hsign (areDigits_of_isDigits hdigits) (by rwa [List.length_map]) hpads

/-- The decimal digits of a whole number, behind a minus sign if it is negative, are a numeral of it
unless they are too many. -/
theorem isNumeral_ofInt {n : Int} (hn : (Text.ofNat n.natAbs).length ≤ 4300) :
    IsNumeral (Text.ofInt n) n := by
  cases n with
  | ofNat n =>
    have hnumeral := isNumeral_of_isDigits [] false (by decide)
      (Json.Grammar.isDigits_ofNat n) hn
    rwa [Json.Grammar.number_ofNat] at hnumeral
  | negSucc n =>
    have hnumeral := isNumeral_of_isDigits [minusSign] true (by decide)
      (Json.Grammar.isDigits_ofNat (n + 1)) hn
    rwa [Json.Grammar.number_ofNat] at hnumeral

theorem int?_ofInt {n : Int} (hn : n.natAbs < 10 ^ maxDigits) : int? (Text.ofInt n) = some n := by
  refine int?_of_isNumeral (isNumeral_ofInt ?_)
  rw [Text.ofNat, List.length_map]
  exact Nat.toDigits_length 10 n.natAbs maxDigits (by decide) hn

end Numeral

end CompletionWire
