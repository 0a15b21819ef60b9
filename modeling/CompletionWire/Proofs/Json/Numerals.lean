import CompletionWire.Json.Writer
import CompletionWire.Proofs.Decimal.Shortest
import CompletionWire.Proofs.Json.Grammar

/-!
# Written numbers

The text of a number is in the grammar and writes that number: a whole number by its digits, and a
finite binary64 number by the decimal that is read as it, wherever the layout puts the point.
-/

namespace CompletionWire

namespace Json

namespace Grammar

/-! ### Digits -/

theorem number_append (a b : Text) : number (a ++ b) = number a * 10 ^ b.length + number b := by
  simp only [number, List.reverse_append, List.map_append, Nat.ofDigits_append, List.length_map,
    List.length_reverse]
  ring

theorem number_singleton (c : CodePoint) : number [c] = c.val - 0x30 := by
  simp [number]

theorem isDigits_append {a b : Text} (ha : ∀ c ∈ a, c.isAsciiDigit = true) (hb : IsDigits b) :
    IsDigits (a ++ b) := by
  refine ⟨List.append_ne_nil_of_right_ne_nil _ hb.1, fun c hc => ?_⟩
  rcases List.mem_append.1 hc with h | h
  · exact ha c h
  · exact hb.2 c h

theorem val_digitChar {d : Nat} (hd : d < 10) : (CodePoint.ofChar d.digitChar).val = 0x30 + d := by
  have hall : ∀ d < 10, (CodePoint.ofChar (Nat.digitChar d)).val = 0x30 + d := by decide
  exact hall d hd

theorem ofNat_of_lt {n : Nat} (hn : n < 10) : Text.ofNat n = [CodePoint.ofChar n.digitChar] := by
  rw [Text.ofNat, Nat.toDigits_of_lt_base hn]
  rfl

theorem ofNat_of_le {n : Nat} (hn : 10 ≤ n) :
    Text.ofNat n = Text.ofNat (n / 10) ++ [CodePoint.ofChar (n % 10).digitChar] := by
  rw [Text.ofNat, Nat.toDigits_of_base_le (by decide) hn, List.map_append]
  rfl

theorem ofNat_ne_nil (n : Nat) : Text.ofNat n ≠ [] := by
  rw [Text.ofNat, ne_eq, List.map_eq_nil_iff]
  exact Nat.toDigits_ne_nil

theorem isDigits_ofNat (n : Nat) : IsDigits (Text.ofNat n) := by
  have hdigit {d : Nat} (hd : d < 10) : (CodePoint.ofChar d.digitChar).isAsciiDigit = true := by
    simp only [CodePoint.isAsciiDigit, val_digitChar hd, Bool.and_eq_true, decide_eq_true_eq]
    omega
  refine ⟨ofNat_ne_nil n, ?_⟩
  induction n using Nat.strongRecOn with
  | ind n ih =>
    rcases Nat.lt_or_ge n 10 with hn | hn
    · rw [ofNat_of_lt hn]
      simpa using hdigit hn
    · rw [ofNat_of_le hn]
      simpa [or_imp, forall_and] using ⟨ih (n / 10) (by omega), hdigit (Nat.mod_lt n (by decide))⟩

theorem number_ofNat (n : Nat) : number (Text.ofNat n) = n := by
  induction n using Nat.strongRecOn with
  | ind n ih =>
    rcases Nat.lt_or_ge n 10 with hn | hn
    · rw [ofNat_of_lt hn, number_singleton, val_digitChar hn]
      omega
    · rw [ofNat_of_le hn, number_append, number_singleton, ih (n / 10) (by omega),
        val_digitChar (Nat.mod_lt n (by decide)), List.length_singleton]
      omega

theorem head_ofNat {n : Nat} (hn : 0 < n) : (Text.ofNat n).head?.map (·.val) ≠ some 0x30 := by
  induction n using Nat.strongRecOn with
  | ind n ih =>
    rcases Nat.lt_or_ge n 10 with hlt | hge
    · rw [ofNat_of_lt hlt]
      simp [val_digitChar hlt]
      omega
    · rw [ofNat_of_le hge, List.head?_append_of_ne_nil _ (ofNat_ne_nil _)]
      exact ih (n / 10) (by omega) (by omega)

theorem isWhole_ofNat (n : Nat) : IsWhole (Text.ofNat n) := by
  refine ⟨isDigits_ofNat n, fun hhead => ?_⟩
  rcases Nat.eq_zero_or_pos n with rfl | hn
  · rfl
  · exact absurd hhead (head_ofNat hn)

/-! ### Whole numbers -/

theorem isNumber_ofInt {limit? : Option Nat} {n : Int}
    (hlimit : ∀ limit, limit? = some limit → (Text.ofNat n.natAbs).length ≤ limit) :
    IsNumber limit? (Text.ofInt n) (.int n) := by
  cases n with
  | ofNat n =>
    have hnumber : IsNumber limit? _ _ := .whole false (isWhole_ofNat n) hlimit
    rwa [number_ofNat] at hnumber
  | negSucc n =>
    have hnumber : IsNumber limit? _ _ := .whole true (isWhole_ofNat (n + 1)) hlimit
    rwa [number_ofNat] at hnumber

/-! ### Layouts of a decimal -/

section

variable {limit? : Option Nat} {w ds : Text} {d : Decimal}

theorem isDigits_zeros (count : Int) {t : Text} (ht : IsDigits t) :
    IsDigits (Decimal.zeros count ++ t) := by
  refine isDigits_append (fun c hc => ?_) ht
  rw [List.eq_of_mem_replicate hc]
  decide

theorem number_zeros (count : Int) : number (Decimal.zeros count) = 0 := by
  rw [Decimal.zeros]
  induction count.toNat with
  | zero => rfl
  | succ n ih =>
    rw [List.replicate_succ', number_append, ih, number_singleton]
    rfl

theorem isNumber_fraction (negative : Bool) (hw : IsWhole w) (hds : IsDigits ds)
    (hdigits : number (w ++ ds) = d.digits) (hexponent : d.exponent = -ds.length) :
    IsNumber limit? (sign negative ++ (w ++ CodePoint.ofChar '.' :: ds))
      (.float (.ofDecimal negative d.digits d.exponent)) := by
  rw [← hdigits, hexponent]
  exact .fraction negative hw hds

theorem isWhole_append_zeros {t : Text} (ht : IsWhole t) {count : Int}
    (hzero : number t = 0 → count = 0) : IsWhole (t ++ Decimal.zeros count) := by
  obtain ⟨hdigits, hhead⟩ := ht
  refine ⟨⟨List.append_ne_nil_of_left_ne_nil hdigits.1 _, fun c hc => ?_⟩, fun hfirst => ?_⟩
  · rcases List.mem_append.1 hc with h | h
    · exact hdigits.2 c h
    · rw [List.eq_of_mem_replicate h]
      decide
  · rw [List.head?_append_of_ne_nil _ hdigits.1] at hfirst
    have hlength := hhead hfirst
    obtain ⟨c, rfl⟩ := List.length_eq_one_iff.1 hlength
    have hc : c.val = 0x30 := Option.some.inj hfirst
    have hcount := hzero (by rw [number_singleton, hc])
    rw [hcount]
    rfl

theorem isWhole_take {t : Text} (ht : IsWhole t) {n : Nat} (hpos : 0 < n) (hn : n < t.length) :
    IsWhole (t.take n) := by
  obtain ⟨hdigits, hhead⟩ := ht
  have hlength : (t.take n).length = n := List.length_take_of_le hn.le
  refine ⟨⟨?_, fun c hc => hdigits.2 c (List.mem_of_mem_take hc)⟩, fun hfirst => ?_⟩
  · intro hnil
    rw [hnil] at hlength
    exact hpos.ne hlength
  · rw [List.head?_take, if_neg hpos.ne'] at hfirst
    have := hhead hfirst
    omega

theorem isDigits_drop {t : Text} (ht : IsDigits t) {n : Nat} (hn : n < t.length) :
    IsDigits (t.drop n) := by
  refine ⟨?_, fun c hc => ht.2 c (List.mem_of_mem_drop hc)⟩
  rw [ne_eq, List.drop_eq_nil_iff]
  omega

theorem isNumber_positional (hd : d.digits = 0 → d.exponent = 0) (negative : Bool) :
    IsNumber limit? (sign negative ++ Decimal.positional .full (Text.ofNat d.digits)
        ((Text.ofNat d.digits).length + d.exponent))
      (.float (.ofDecimal negative d.digits d.exponent)) := by
  have hdigits := isDigits_ofNat d.digits
  have hnumber := number_ofNat d.digits
  have hwhole := isWhole_ofNat d.digits
  rw [Decimal.positional]
  generalize Text.ofNat d.digits = t at hdigits hnumber hwhole ⊢
  split_ifs with hsmall hlarge hfull
  · have hds := isDigits_zeros (-(t.length + d.exponent)) hdigits
    have hnum : number ([CodePoint.ofChar '0'] ++ (Decimal.zeros (-(t.length + d.exponent)) ++ t)) =
        d.digits := by
      rw [number_append, number_append, number_zeros, hnumber, number_singleton,
        show (CodePoint.ofChar '0').val = 0x30 from rfl]
      omega
    have hlength : d.exponent = -((Decimal.zeros (-(t.length + d.exponent)) ++ t).length : Nat) := by
      simp only [Decimal.zeros, List.length_append, List.length_replicate]
      omega
    rw [List.append_assoc]
    exact isNumber_fraction negative (isWhole_ofNat 0) hds hnum hlength
  · have hcount : (t.length : Int) + d.exponent - t.length = d.exponent := by omega
    have hw : IsWhole (t ++ Decimal.zeros d.exponent) :=
      isWhole_append_zeros hwhole fun h => hd (hnumber.symm.trans h)
    have hnum : number (t ++ Decimal.zeros d.exponent ++ Text.ofNat 0) =
        d.digits * 10 ^ (d.exponent.toNat + 1) := by
      rw [number_append, number_append, number_zeros, hnumber, number_ofNat, Decimal.zeros,
        List.length_replicate, show (Text.ofNat 0).length = 1 from rfl]
      ring
    have hvalue : Binary64.ofDecimal negative d.digits d.exponent =
        .ofDecimal negative (d.digits * 10 ^ (d.exponent.toNat + 1)) (-(1 : Nat)) := by
      rw [← Binary64.ofDecimal_mul_ten_pow negative d.digits (d.exponent.toNat + 1)]
      congr 1
      omega
    rw [hcount, hvalue, ← hnum]
    exact .fraction negative hw (isDigits_ofNat 0)
  · exact absurd rfl hfull
  · have hplace : (t.length + d.exponent).toNat < t.length := by omega
    have hw := isWhole_take hwhole (n := (t.length + d.exponent).toNat) (by omega) hplace
    have hnum : number (t.take (t.length + d.exponent).toNat ++
        t.drop (t.length + d.exponent).toNat) = d.digits := by
      rw [List.take_append_drop, hnumber]
    refine isNumber_fraction negative hw (isDigits_drop hdigits hplace) hnum ?_
    rw [List.length_drop]
    omega

theorem isExponent_exponentText (e : Int) : IsExponent (Decimal.exponentText e) e := by
  have hdigits : IsDigits ((if e.natAbs < 10 then text "0" else []) ++ Text.ofNat e.natAbs) := by
    refine isDigits_append (fun c hc => ?_) (isDigits_ofNat _)
    split_ifs at hc
    · rw [List.mem_singleton.1 hc]
      decide
    · cases hc
  have hnumber : number ((if e.natAbs < 10 then text "0" else []) ++ Text.ofNat e.natAbs) =
      e.natAbs := by
    rw [number_append, number_ofNat]
    split_ifs
    · rw [show number (text "0") = 0 from rfl, zero_mul, zero_add]
    · rw [show number [] = 0 from rfl, zero_mul, zero_add]
  rw [Decimal.exponentText, List.append_assoc]
  generalize (if e.natAbs < 10 then text "0" else []) ++ Text.ofNat e.natAbs = ds
    at hdigits hnumber ⊢
  split_ifs with hnegative
  · have hexponent : IsExponent _ _ := .digits (.inl rfl) .minus hdigits
    rw [hnumber, Numeral.signed, if_pos rfl] at hexponent
    rwa [show -(e.natAbs : Int) = e by omega] at hexponent
  · have hexponent : IsExponent _ _ := .digits (.inl rfl) .plus hdigits
    rw [hnumber, Numeral.signed, if_neg Bool.false_ne_true] at hexponent
    rwa [show (e.natAbs : Int) = e by omega] at hexponent

theorem isNumber_scientific (negative : Bool) (d : Decimal) :
    IsNumber limit? (sign negative ++ Decimal.scientific (Text.ofNat d.digits)
        ((Text.ofNat d.digits).length + d.exponent))
      (.float (.ofDecimal negative d.digits d.exponent)) := by
  have hdigits := isDigits_ofNat d.digits
  have hnumber := number_ofNat d.digits
  have hwhole := isWhole_ofNat d.digits
  rw [Decimal.scientific]
  generalize Text.ofNat d.digits = t at hdigits hnumber hwhole ⊢
  have hx := isExponent_exponentText (t.length + d.exponent - 1)
  rw [List.append_assoc]
  split_ifs with hlength
  · have hone : t.length = 1 := Nat.le_antisymm hlength (List.length_pos_of_ne_nil hdigits.1)
    have hexponent : t.length + d.exponent - 1 - ([] : Text).length = d.exponent := by
      rw [hone, List.length_nil]
      omega
    have hw : IsNumber limit? _ _ := .exponent negative hwhole .absent hx
    rw [List.append_nil, hnumber, hexponent] at hw
    rwa [List.take_of_length_le hlength]
  · have hexponent : t.length + d.exponent - 1 - (t.drop 1).length = d.exponent := by
      rw [List.length_drop]
      omega
    have hw : IsNumber limit? _ _ := .exponent negative
      (isWhole_take hwhole one_pos (by omega)) (.digits (isDigits_drop hdigits (n := 1) (by omega)))
      hx
    rw [List.take_append_drop, hnumber, hexponent] at hw
    exact hw

/-- A finite number is read back from its text. -/
theorem isNumber_write {x : Binary64} (hx : x.isFinite = true) :
    IsNumber limit? (x.write .long) (.float x) := by
  cases x with
  | nan => cases hx
  | infinity negative => cases hx
  | finite negative rank =>
    change IsNumber limit? (sign negative ++ (Binary64.shortest rank).write .full) _
    rw [← Binary64.ofDecimal_shortest negative rank, Decimal.write]
    split_ifs
    · exact isNumber_positional (Binary64.exponent_shortest_of_digits rank.isLt) negative
    · exact isNumber_scientific negative _

end

end Grammar

end Json

end CompletionWire
