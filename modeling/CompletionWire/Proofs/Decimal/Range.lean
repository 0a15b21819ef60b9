import CompletionWire.Proofs.Decimal.Rounding

/-!
# The range of binary64 numbers

A whole number has a finite binary64 number exactly if it is nearer to zero than half a unit of the
largest one beyond it: behind that bound the significand is rounded up to a power of two once more
than the exponent allows. Below the last exponent the rank stays below the bound whatever the
rounding adds, and beyond it the exponent alone is too large, so that only the numbers of the last
exponent have to be weighed.
-/

namespace CompletionWire

namespace Binary64

/-- Half a unit beyond the largest finite number, `2 ^ 1024 - 2 ^ 970`: the least magnitude that is
rounded to an infinity. -/
def rangeBound : Nat := (2 ^ 54 - 1) * 2 ^ 970

theorem lt_rangeBound {n : Nat} (h : n ≤ 2 ^ 53) : n < rangeBound := by
  have hpos : 0 < 2 ^ 970 := by positivity
  rw [rangeBound]
  omega

/-! ### The rounded quotient -/

theorem roundQuotient_le_succ (num den : Nat) : roundQuotient num den ≤ num / den + 1 := by
  simp only [roundQuotient]
  split_ifs <;> omega

/-- A quotient is rounded below an even number exactly if half of one lies in between. -/
theorem roundQuotient_lt_iff {num den k : Nat} (hden : 0 < den) (hk : k % 2 = 0) :
    roundQuotient num den < k ↔ 2 * num + den < 2 * (k * den) := by
  have hsplit : num / den * den + num % den = num := Nat.div_add_mod' num den
  have hrest : num % den < den := Nat.mod_lt num hden
  have hbelow (h : num / den + 1 < k) : 2 * num + den < 2 * (k * den) := by
    have := Nat.mul_le_mul_right den (show num / den + 2 ≤ k by omega)
    rw [Nat.add_mul] at this
    omega
  have habove (h : k ≤ num / den) : ¬2 * num + den < 2 * (k * den) := by
    have := Nat.mul_le_mul_right den h
    omega
  rcases lt_trichotomy (num / den + 1) k with h | h | h
  · exact iff_of_true (lt_of_le_of_lt (roundQuotient_le_succ num den) h) (hbelow h)
  · have hproduct : k * den = num / den * den + den := by rw [← h, Nat.add_mul, Nat.one_mul]
    rw [hproduct]
    simp only [roundQuotient]
    split_ifs <;> omega
  · have := div_le_roundQuotient num den
    exact iff_of_false (by omega) (habove (by omega))

/-! ### Whole numbers -/

theorem ofRatio_one {n e : Nat} (hn : n ≠ 0) (he : n.log2 = e) (negative : Bool) :
    ofRatio negative n 1 = ofRank negative
      ((e + 1022) * ranksPerExponent + roundQuotient (n * 2 ^ (52 - e)) (2 ^ (e - 52))) := by
  have hunit : max (binaryExponent n 1 - 52) (-1074) = (e : Int) - 52 := by
    rw [binaryExponent_one hn, he]
    omega
  have hup : (-((e : Int) - 52)).toNat = 52 - e := by omega
  have hdown : ((e : Int) - 52).toNat = e - 52 := by omega
  have hplace : ((e : Int) - 52 + 1074).toNat = e + 1022 := by omega
  simp only [ofRatio, if_neg hn, hunit, hup, hdown, Nat.pow_eq, one_mul, rankOf, hplace]

theorem isFinite_ofRank_iff (negative : Bool) (rank : Nat) :
    (ofRank negative rank).isFinite = true ↔ rank < rankBound := by
  rcases Nat.lt_or_ge rank rankBound with h | h
  · rw [ofRank_of_lt h]
    exact iff_of_true rfl h
  · rw [ofRank_of_le h]
    exact iff_of_false (by simp [isFinite]) (Nat.not_lt.2 h)

theorem roundQuotient_le_of_log2 {n e : Nat} (he : n.log2 = e) :
    roundQuotient (n * 2 ^ (52 - e)) (2 ^ (e - 52)) ≤ 2 ^ 53 := by
  have hn : n < 2 ^ (e + 1) := he ▸ Nat.lt_log2_self
  have hscaled : n * 2 ^ (52 - e) < 2 ^ 53 * 2 ^ (e - 52) := by
    calc n * 2 ^ (52 - e) < 2 ^ (e + 1) * 2 ^ (52 - e) :=
          Nat.mul_lt_mul_of_pos_right hn (Nat.two_pow_pos _)
      _ = 2 ^ 53 * 2 ^ (e - 52) := by
          rw [← pow_add, ← pow_add]
          congr 1
          omega
  have hquotient := (Nat.div_lt_iff_lt_mul (Nat.two_pow_pos (e - 52))).2 hscaled
  have := roundQuotient_le_succ (n * 2 ^ (52 - e)) (2 ^ (e - 52))
  omega

theorem isFinite_ofRatio_one_iff (negative : Bool) (n : Nat) :
    (ofRatio negative n 1).isFinite = true ↔ n < rangeBound := by
  have hlast : 2 ^ 1024 = 2 ^ 54 * 2 ^ 970 := by rw [← pow_add]
  have hhalf : 2 ^ 1023 = 2 ^ 53 * 2 ^ 970 := by rw [← pow_add]
  have hunit : 2 ^ 971 = 2 * 2 ^ 970 := by rw [← pow_succ']
  have hpos : 0 < 2 ^ 970 := by positivity
  by_cases hn : n = 0
  · rw [hn, ofRatio, if_pos rfl]
    exact iff_of_true rfl (lt_rangeBound (Nat.zero_le _))
  rcases lt_trichotomy n.log2 1023 with he | he | he
  · rw [ofRatio_one hn rfl, isFinite_ofRank_iff]
    have hdigits := roundQuotient_le_of_log2 (n := n) rfl
    have hrange : n < rangeBound := by
      rw [Nat.log2_lt hn] at he
      rw [rangeBound]
      omega
    refine iff_of_true ?_ hrange
    simp only [ranksPerExponent, rankBound]
    omega
  · rw [ofRatio_one hn he, isFinite_ofRank_iff]
    have hround : roundQuotient n (2 ^ 971) < 2 ^ 53 ↔ 2 * n + 2 ^ 971 < 2 * (2 ^ 53 * 2 ^ 971) :=
      roundQuotient_lt_iff (by positivity) (by norm_num)
    rw [show 52 - 1023 = 0 from rfl, show 1023 - 52 = 971 from rfl, pow_zero, mul_one n]
    simp only [ranksPerExponent, rankBound, rangeBound]
    omega
  · have hlarge : 2 ^ 1024 ≤ n := by rwa [← Nat.le_log2 hn]
    rw [ofRatio_of_large one_pos le_rfl (by rwa [one_mul]) negative]
    refine iff_of_false (by simp [isFinite]) ?_
    rw [rangeBound]
    omega

/-- The binary64 number nearest to a whole number is finite exactly if the number is within the
range. -/
theorem isFinite_ofInt_iff (n : Int) : (ofInt n).isFinite = true ↔ n.natAbs < rangeBound :=
  isFinite_ofRatio_one_iff _ _

end Binary64

end CompletionWire
