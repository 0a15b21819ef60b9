import CompletionWire.Proofs.Decimal.Whole
import Mathlib.Algebra.Order.Field.Power
import Mathlib.Data.Int.Log
import Mathlib.Data.Rat.Floor
import Mathlib.Tactic.FieldSimp

/-!
# Rounding to a binary64 number

The number nearest to a quotient depends on the value of the quotient alone, and that of a decimal on
the value of the decimal: the exponents that are not multiplied out are those whose outcome is clear.
A value that is a binary64 number is its own rounding. Values are compared as rational numbers, in
which a power may have an exponent of either sign.
-/

namespace CompletionWire

namespace Binary64

/-! ### Powers -/

theorem zpow_eq_div {b : ℚ} (hb : b ≠ 0) (e : ℤ) : b ^ e = b ^ e.toNat / b ^ (-e).toNat := by
  rw [← zpow_natCast, ← zpow_natCast, ← zpow_sub₀ hb, Int.toNat_sub_toNat_neg]

theorem cast_scaled (num den : Nat) (unit : Int) :
    ((num * Nat.pow 2 (-unit).toNat : Nat) : ℚ) / (den * Nat.pow 2 unit.toNat : Nat) =
      num / den / 2 ^ unit := by
  have hpow (n : Nat) : ((Nat.pow 2 n : Nat) : ℚ) = 2 ^ n := by rw [Nat.pow_eq]; push_cast; rfl
  rw [zpow_eq_div two_ne_zero]
  push_cast [hpow]
  field_simp

/-! ### The exponent of a quotient -/

theorem binaryExponent_eq_log {num den : Nat} (hnum : num ≠ 0) (hden : den ≠ 0) :
    binaryExponent num den = Int.log 2 ((num : ℚ) / den) := by
  have hn : (0 : ℚ) < num := by exact_mod_cast Nat.pos_of_ne_zero hnum
  have hd : (0 : ℚ) < den := by exact_mod_cast Nat.pos_of_ne_zero hden
  have hpos : (0 : ℚ) < num / den := div_pos hn hd
  have hreach (x : Int) : (2 : ℚ) ^ x ≤ num / den ↔ x ≤ Int.log 2 ((num : ℚ) / den) :=
    mod_cast Int.zpow_le_iff_le_log Nat.one_lt_two hpos
  have hbelow (x : Int) : (num : ℚ) / den < 2 ^ x ↔ Int.log 2 ((num : ℚ) / den) < x :=
    mod_cast Int.lt_zpow_iff_log_lt Nat.one_lt_two hpos
  have hnumLow : (2 : ℚ) ^ (num.log2 : ℤ) ≤ num := by
    exact_mod_cast Nat.log2_self_le hnum
  have hnumHigh : (num : ℚ) < 2 ^ ((num.log2 : ℤ) + 1) := by
    exact_mod_cast Nat.lt_log2_self (n := num)
  have hdenLow : (2 : ℚ) ^ (den.log2 : ℤ) ≤ den := by
    exact_mod_cast Nat.log2_self_le hden
  have hdenHigh : (den : ℚ) < 2 ^ ((den.log2 : ℤ) + 1) := by
    exact_mod_cast Nat.lt_log2_self (n := den)
  -- the logarithms of the parts leave two candidates, between which the test decides
  have hlow : (num.log2 : ℤ) - den.log2 - 1 ≤ Int.log 2 ((num : ℚ) / den) := by
    rw [← hreach, sub_sub, zpow_sub₀ two_ne_zero]
    exact div_le_div₀ hn.le hnumLow hd hdenHigh.le
  have hhigh : Int.log 2 ((num : ℚ) / den) < (num.log2 : ℤ) - den.log2 + 1 := by
    rw [← hbelow, sub_add_eq_add_sub, zpow_sub₀ two_ne_zero]
    exact div_lt_div₀ hnumHigh hdenLow (by positivity) (by positivity)
  have htest (e : Int) : den * Nat.pow 2 e.toNat ≤ num * Nat.pow 2 (-e).toNat ↔
      e ≤ Int.log 2 ((num : ℚ) / den) := by
    rw [← hreach, zpow_eq_div two_ne_zero, div_le_div_iff₀ (by positivity) hd, Nat.pow_eq,
      Nat.pow_eq, mul_comm den]
    exact_mod_cast Iff.rfl
  simp only [binaryExponent, htest]
  split_ifs <;> omega

theorem log_mul_zpow {n : Nat} (hn : n ≠ 0) (unit : Int) :
    Int.log 2 ((n : ℚ) * 2 ^ unit) = n.log2 + unit := by
  have hpos : (0 : ℚ) < n * 2 ^ unit := by
    have : (0 : ℚ) < n := by exact_mod_cast Nat.pos_of_ne_zero hn
    positivity
  have hlow : (2 : ℚ) ^ (n.log2 + unit) ≤ n * 2 ^ unit := by
    rw [zpow_add₀ two_ne_zero]
    gcongr
    exact_mod_cast Nat.log2_self_le hn
  have hhigh : (n : ℚ) * 2 ^ unit < 2 ^ (n.log2 + unit + 1) := by
    rw [add_right_comm, zpow_add₀ two_ne_zero]
    gcongr
    exact_mod_cast Nat.lt_log2_self (n := n)
  have hle := (Int.zpow_le_iff_le_log Nat.one_lt_two hpos).1 (mod_cast hlow)
  have hlt := (Int.lt_zpow_iff_log_lt Nat.one_lt_two hpos).1 (mod_cast hhigh)
  omega

/-! ### Rounding -/

theorem roundQuotient_mul_left {k : Nat} (hk : 0 < k) (num den : Nat) :
    roundQuotient (k * num) (k * den) = roundQuotient num den := by
  have hdouble (x : Nat) : 2 * (k * x) = k * (2 * x) := by ring
  simp only [roundQuotient, Nat.mul_div_mul_left _ _ hk, Nat.mul_mod_mul_left, hdouble,
    Nat.mul_lt_mul_left hk]

theorem roundQuotient_congr {num den num' den' : Nat} (hden : 0 < den) (hden' : 0 < den')
    (h : (num : ℚ) / den = num' / den') : roundQuotient num den = roundQuotient num' den' := by
  have hd : (den : ℚ) ≠ 0 := by exact_mod_cast hden.ne'
  have hd' : (den' : ℚ) ≠ 0 := by exact_mod_cast hden'.ne'
  have hcross : num * den' = num' * den := by
    rw [div_eq_div_iff hd hd'] at h
    exact_mod_cast h
  calc roundQuotient num den = roundQuotient (den' * num) (den' * den) :=
        (roundQuotient_mul_left hden' num den).symm
    _ = roundQuotient (den * num') (den * den') := by
        rw [mul_comm den' num, hcross, mul_comm num' den, mul_comm den' den]
    _ = roundQuotient num' den' := roundQuotient_mul_left hden num' den'

theorem ofRatio_congr {num den num' den' : Nat} (hden : 0 < den) (hden' : 0 < den')
    (h : (num : ℚ) / den = num' / den') (negative : Bool) :
    ofRatio negative num den = ofRatio negative num' den' := by
  have hzero : num = 0 ↔ num' = 0 := by
    have hd : (den : ℚ) ≠ 0 := by exact_mod_cast hden.ne'
    have hd' : (den' : ℚ) ≠ 0 := by exact_mod_cast hden'.ne'
    have hiff : (num : ℚ) / den = 0 ↔ (num' : ℚ) / den' = 0 := by rw [h]
    simpa [hd, hd'] using hiff
  by_cases hnum : num = 0
  · rw [ofRatio, if_pos hnum, ofRatio, if_pos (hzero.1 hnum)]
  · have hnum' : num' ≠ 0 := mt hzero.2 hnum
    have hexponent : binaryExponent num den = binaryExponent num' den' := by
      rw [binaryExponent_eq_log hnum hden.ne', binaryExponent_eq_log hnum' hden'.ne', h]
    have hround (unit : Int) :
        roundQuotient (num * Nat.pow 2 (-unit).toNat) (den * Nat.pow 2 unit.toNat) =
          roundQuotient (num' * Nat.pow 2 (-unit).toNat) (den' * Nat.pow 2 unit.toNat) := by
      apply roundQuotient_congr
      · exact Nat.mul_pos hden (Nat.two_pow_pos _)
      · exact Nat.mul_pos hden' (Nat.two_pow_pos _)
      · rw [cast_scaled, cast_scaled, h]
    simp only [ofRatio, if_neg hnum, if_neg hnum', hexponent, hround]

/-- The sign takes no part in rounding. -/
theorem exists_rank_ofRatio (num den : Nat) :
    ∃ rank, ∀ negative, ofRatio negative num den = ofRank negative rank := by
  by_cases hnum : num = 0
  · exact ⟨0, fun negative => by rw [ofRatio, if_pos hnum]; rfl⟩
  · exact ⟨_, fun negative => by simp only [ofRatio, if_neg hnum]; rfl⟩

/-! ### Exponents that leave no doubt -/

theorem div_le_roundQuotient (num den : Nat) : num / den ≤ roundQuotient num den := by
  simp only [roundQuotient]
  split_ifs <;> omega

theorem le_roundQuotient {num den : Nat} (hnum : num ≠ 0) (hden : 0 < den) (unit : Int)
    (hunit : unit + 52 = binaryExponent num den) :
    2 ^ 52 ≤ roundQuotient (num * Nat.pow 2 (-unit).toNat) (den * Nat.pow 2 unit.toNat) := by
  have hd : (0 : ℚ) < den := by exact_mod_cast hden
  have hpos : (0 : ℚ) < num / den := div_pos (by exact_mod_cast Nat.pos_of_ne_zero hnum) hd
  have hreach : (2 : ℚ) ^ (unit + 52) ≤ num / den := by
    rw [hunit, binaryExponent_eq_log hnum hden.ne']
    exact_mod_cast (Int.zpow_le_iff_le_log Nat.one_lt_two hpos).2 le_rfl
  have hquotient : (2 : ℚ) ^ 52 ≤ num / den / 2 ^ unit := by
    rw [le_div_iff₀ (by positivity), ← zpow_natCast, ← zpow_add₀ two_ne_zero, add_comm]
    exact_mod_cast hreach
  have hunits : 0 < den * Nat.pow 2 unit.toNat := Nat.mul_pos hden (Nat.two_pow_pos _)
  refine le_trans ?_ (div_le_roundQuotient _ _)
  rw [Nat.le_div_iff_mul_le hunits]
  rw [← cast_scaled, le_div_iff₀ (by exact_mod_cast hunits)] at hquotient
  exact_mod_cast hquotient

theorem ofRatio_of_large {num den k : Nat} (hden : 0 < den) (hk : 1024 ≤ k)
    (h : den * 2 ^ k ≤ num) (negative : Bool) : ofRatio negative num den = .infinity negative := by
  have hd : (0 : ℚ) < den := by exact_mod_cast hden
  have hnum : num ≠ 0 := by
    have := Nat.mul_pos hden (Nat.two_pow_pos k)
    omega
  have hvalue : (2 : ℚ) ^ (k : ℤ) ≤ num / den := by
    rw [le_div_iff₀ hd, mul_comm]
    exact_mod_cast h
  have hexponent : (k : ℤ) ≤ binaryExponent num den := by
    rw [binaryExponent_eq_log hnum hden.ne']
    have hpos : (0 : ℚ) < num / den := lt_of_lt_of_le (by positivity) hvalue
    exact (Int.zpow_le_iff_le_log Nat.one_lt_two hpos).1 (mod_cast hvalue)
  have hunit : max (binaryExponent num den - 52) (-1074) = binaryExponent num den - 52 := by
    omega
  have hsignificand := le_roundQuotient hnum hden (binaryExponent num den - 52) (by omega)
  have hplace : 2046 ≤ (binaryExponent num den - 52 + 1074).toNat := by omega
  have hranks := Nat.mul_le_mul_right ranksPerExponent hplace
  simp only [ofRatio, if_neg hnum, hunit]
  apply ofRank_of_le
  simp only [rankBound, rankOf, ranksPerExponent] at hranks ⊢
  omega

theorem ofRatio_of_small {num den k : Nat} (hk : 1075 ≤ k) (h : num * 2 ^ k < den)
    (negative : Bool) : ofRatio negative num den = zero negative := by
  by_cases hnum : num = 0
  · rw [ofRatio, if_pos hnum]
  · have hden : 0 < den := Nat.zero_lt_of_lt h
    have hd : (0 : ℚ) < den := by exact_mod_cast hden
    have hpos : (0 : ℚ) < num / den := div_pos (by exact_mod_cast Nat.pos_of_ne_zero hnum) hd
    have hvalue : (num : ℚ) / den < 2 ^ (-(k : ℤ)) := by
      rw [zpow_neg, div_lt_iff₀ hd, ← div_eq_inv_mul, lt_div_iff₀ (by positivity)]
      exact_mod_cast h
    have hexponent : binaryExponent num den < -(k : ℤ) := by
      rw [binaryExponent_eq_log hnum hden.ne']
      exact (Int.lt_zpow_iff_log_lt Nat.one_lt_two hpos).1 (mod_cast hvalue)
    have hunit : max (binaryExponent num den - 52) (-1074) = -(1074 : ℕ) := by
      omega
    have hround (n : Nat) (hn : n + 1 ≤ k) :
        roundQuotient (num * Nat.pow 2 (- -(n : ℤ)).toNat) (den * Nat.pow 2 (-(n : ℤ)).toNat) =
          0 := by
      have hup : (- -(n : ℤ)).toNat = n := by omega
      have hdown : (-(n : ℤ)).toNat = 0 := by omega
      have htwice : 2 * (num * 2 ^ n) ≤ num * 2 ^ k := by
        calc 2 * (num * 2 ^ n) = num * 2 ^ (n + 1) := by ring
          _ ≤ num * 2 ^ k := Nat.mul_le_mul_left _ (Nat.pow_le_pow_right Nat.two_pos hn)
      have hlt : num * 2 ^ n < den := by omega
      rw [hup, hdown, Nat.pow_eq, Nat.pow_eq, pow_zero, mul_one, roundQuotient,
        Nat.div_eq_of_lt hlt, Nat.mod_eq_of_lt hlt, if_pos (by omega)]
    simp only [ofRatio, if_neg hnum, hunit, hround 1074 hk]
    rfl

/-! ### Decimals -/

/-- Ten is a little more than `2 ^ 3.3`. -/
theorem two_pow_le_ten_pow (i j : Nat) : 2 ^ (33 * i + 3 * j) ≤ 10 ^ (10 * i + j) := by
  have hten : 2 ^ 33 ≤ 10 ^ 10 := by norm_num
  calc 2 ^ (33 * i + 3 * j) = (2 ^ 33) ^ i * (2 ^ 3) ^ j := by rw [pow_add, pow_mul, pow_mul]
    _ ≤ (10 ^ 10) ^ i * 10 ^ j :=
        Nat.mul_le_mul (Nat.pow_le_pow_left hten i) (Nat.pow_le_pow_left (by norm_num) j)
    _ = 10 ^ (10 * i + j) := by rw [pow_add, pow_mul]

/-- The exponents that are not multiplied out make no difference. -/
theorem ofDecimal_eq_ofRatio (negative : Bool) (digits : Nat) (exponent : Int) :
    ofDecimal negative digits exponent =
      ofRatio negative (digits * Nat.pow 10 exponent.toNat) (Nat.pow 10 (-exponent).toNat) := by
  rw [ofDecimal]
  split_ifs with hzero hlarge hsmall
  · rw [hzero, zero_mul, ofRatio, if_pos rfl]
  · have hdown : (-exponent).toNat = 0 := by omega
    obtain ⟨j, hj⟩ : ∃ j, exponent.toNat = 10 * 31 + (j + 1) :=
      ⟨exponent.toNat - 311, by omega⟩
    have hpow := two_pow_le_ten_pow 31 (j + 1)
    rw [hdown, hj, Nat.pow_eq, Nat.pow_eq, pow_zero]
    refine (ofRatio_of_large one_pos (k := 33 * 31 + 3 * (j + 1)) (by omega) ?_ negative).symm
    rw [one_mul]
    exact hpow.trans (Nat.le_mul_of_pos_left _ (Nat.pos_of_ne_zero hzero))
  · have hup : exponent.toNat = 0 := by omega
    obtain ⟨i, j, hi, hj⟩ : ∃ i j, 33 ≤ i ∧ (-exponent).toNat = 10 * i + (digits.log2 + 1 + j) :=
      ⟨33, (-exponent).toNat - (331 + digits.log2), le_rfl, by omega⟩
    have hdigits : digits < 2 ^ (digits.log2 + 1) := Nat.lt_log2_self
    rw [hup, hj, Nat.pow_eq, Nat.pow_eq, pow_zero, mul_one]
    refine (ofRatio_of_small (k := 33 * i) (by omega) ?_ negative).symm
    calc digits * 2 ^ (33 * i) < 2 ^ (digits.log2 + 1) * 2 ^ (33 * i) :=
          Nat.mul_lt_mul_of_pos_right hdigits (Nat.two_pow_pos _)
      _ = 2 ^ (digits.log2 + 1 + 33 * i) := (pow_add _ _ _).symm
      _ ≤ 2 ^ (33 * i + 3 * (digits.log2 + 1 + j)) :=
          Nat.pow_le_pow_right Nat.two_pos (by omega)
      _ ≤ 10 ^ (10 * i + (digits.log2 + 1 + j)) := two_pow_le_ten_pow _ _
  · rfl

/-- Decimals of one value are one number, however their digits are cut. -/
theorem ofDecimal_congr {digits digits' : Nat} {exponent exponent' : Int}
    (h : (digits : ℚ) * 10 ^ exponent = digits' * 10 ^ exponent') (negative : Bool) :
    ofDecimal negative digits exponent = ofDecimal negative digits' exponent' := by
  have hpow (n : Nat) : ((Nat.pow 10 n : Nat) : ℚ) = 10 ^ n := by rw [Nat.pow_eq]; push_cast; rfl
  have hvalue (digits : Nat) (exponent : Int) :
      ((digits * Nat.pow 10 exponent.toNat : Nat) : ℚ) / (Nat.pow 10 (-exponent).toNat : Nat) =
        digits * 10 ^ exponent := by
    rw [zpow_eq_div (by norm_num : (10 : ℚ) ≠ 0) exponent]
    push_cast [hpow]
    ring
  rw [ofDecimal_eq_ofRatio, ofDecimal_eq_ofRatio]
  have hden (n : Nat) : 0 < Nat.pow 10 n := Nat.pow_pos (by norm_num)
  exact ofRatio_congr (hden _) (hden _)
    ((hvalue _ _).trans (h.trans (hvalue _ _).symm)) negative

/-- Zeros behind the digits of a decimal are made up for by its exponent. -/
theorem ofDecimal_mul_ten_pow (negative : Bool) (digits k : Nat) (exponent : Int) :
    ofDecimal negative (digits * 10 ^ k) (exponent - k) = ofDecimal negative digits exponent := by
  apply ofDecimal_congr
  rw [zpow_sub₀ (by norm_num), zpow_natCast]
  push_cast
  field_simp

theorem exists_rank_ofDecimal (digits : Nat) (exponent : Int) :
    ∃ rank, ∀ negative, ofDecimal negative digits exponent = ofRank negative rank := by
  obtain ⟨rank, h⟩ := exists_rank_ofRatio (digits * Nat.pow 10 exponent.toNat)
    (Nat.pow 10 (-exponent).toNat)
  exact ⟨rank, fun negative => by rw [ofDecimal_eq_ofRatio, h]⟩

/-! ### Numbers that are kept -/

theorem ofRank_inj {negative : Bool} {rank rank' : Nat} (hrank' : rank' < rankBound)
    (h : ofRank negative rank = ofRank negative rank') : rank = rank' := by
  rw [ofRank_of_lt hrank'] at h
  rcases Nat.lt_or_ge rank rankBound with hlt | hge
  · rw [ofRank_of_lt hlt] at h
    exact congrArg Fin.val (Binary64.finite.inj h).2
  · rw [ofRank_of_le hge] at h
    cases h

/-- The significand of a rank fits its unit: below the least normal rank the unit is the least one,
and from there on all digits are used. -/
theorem significand_cases (rank : Nat) :
    (significand rank < 2 ^ 52 ∧ unit rank = -1074 ∧ rank = significand rank) ∨
      (2 ^ 52 ≤ significand rank ∧ significand rank < 2 ^ 53 ∧ -1074 ≤ unit rank ∧
        rank = (unit rank + 1074).toNat * ranksPerExponent + significand rank) := by
  rcases Nat.lt_or_ge rank ranksPerExponent with h | h
  · left
    have hquotient : rank / ranksPerExponent = 0 := Nat.div_eq_of_lt h
    rw [significand, if_pos h, unit, hquotient]
    exact ⟨h, rfl, rfl⟩
  · right
    rw [significand, if_neg (Nat.not_lt.2 h), unit]
    simp only [ranksPerExponent] at h ⊢
    omega

theorem ratio_eq (rank : Nat) :
    ((ratio rank).1 : ℚ) / (ratio rank).2 = significand rank * 2 ^ unit rank := by
  have hpow (n : Nat) : ((Nat.pow 2 n : Nat) : ℚ) = 2 ^ n := by rw [Nat.pow_eq]; push_cast; rfl
  rw [zpow_eq_div two_ne_zero]
  simp only [ratio]
  push_cast [hpow]
  ring

/-- The magnitude of a rank is rounded to that rank. -/
theorem ofRatio_ratio (negative : Bool) (rank : Nat) :
    ofRatio negative (ratio rank).1 (ratio rank).2 = ofRank negative rank := by
  have hpow (n : Nat) : 0 < Nat.pow 2 n := Nat.two_pow_pos n
  by_cases hzero : significand rank = 0
  · have hrank : rank = 0 := by
      rcases significand_cases rank with h | h <;> omega
    rw [hrank]
    rfl
  · have hnum : (ratio rank).1 ≠ 0 := Nat.mul_ne_zero hzero (hpow _).ne'
    have hden : 0 < (ratio rank).2 := hpow _
    have hexponent : binaryExponent (ratio rank).1 (ratio rank).2 =
        (significand rank).log2 + unit rank := by
      rw [binaryExponent_eq_log hnum hden.ne', ratio_eq, log_mul_zpow hzero]
    have hunit : max (binaryExponent (ratio rank).1 (ratio rank).2 - 52) (-1074) = unit rank := by
      rw [hexponent]
      rcases significand_cases rank with ⟨hlt, hunit, -⟩ | ⟨hge, hlt, hunit, -⟩
      · have := (Nat.log2_lt hzero).2 hlt
        omega
      · have := (Nat.log2_lt hzero).2 hlt
        have := (Nat.le_log2 hzero).2 hge
        omega
    have hround : roundQuotient ((ratio rank).1 * Nat.pow 2 (-unit rank).toNat)
        ((ratio rank).2 * Nat.pow 2 (unit rank).toNat) = significand rank := by
      have hproduct : (ratio rank).1 * Nat.pow 2 (-unit rank).toNat =
          significand rank * ((ratio rank).2 * Nat.pow 2 (unit rank).toNat) := by
        simp only [ratio]
        ring
      have hdvd : (ratio rank).2 * Nat.pow 2 (unit rank).toNat ∣
          (ratio rank).1 * Nat.pow 2 (-unit rank).toNat := ⟨_, hproduct.trans (mul_comm _ _)⟩
      rw [roundQuotient_of_dvd (Nat.mul_pos hden (hpow _)) hdvd, hproduct]
      exact Nat.mul_div_cancel _ (Nat.mul_pos hden (hpow _))
    simp only [ofRatio, if_neg hnum, hunit, hround, rankOf]
    congr 1
    rcases significand_cases rank with ⟨-, hunit, hrank⟩ | ⟨-, -, -, hrank⟩
    · rw [hunit, show (-1074 + 1074 : Int).toNat = 0 from rfl, zero_mul, zero_add]
      exact hrank.symm
    · exact hrank.symm

end Binary64

end CompletionWire
