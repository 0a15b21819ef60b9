import CompletionWire.Decimal.Shortest
import CompletionWire.Proofs.Decimal.Rounding

/-!
# The shortest decimal reads back

Among the candidates only such are taken as read back, and all the digits of a magnitude are there
if none of them does. Zeros cut off the end leave the value alone. So the decimal that is written for
a number is read as that number, with either sign.
-/

namespace CompletionWire

namespace Binary64

theorem ofDecimal_trimZeros (negative : Bool) (limit : Nat) (d : Decimal) :
    ofDecimal negative (d.trimZeros limit).digits (d.trimZeros limit).exponent =
      ofDecimal negative d.digits d.exponent := by
  induction limit generalizing d with
  | zero => rfl
  | succ limit ih =>
    rw [Decimal.trimZeros]
    split_ifs with hzero
    · have hdigits : d.digits / 10 * 10 ^ 1 = d.digits := by omega
      have hexponent : d.exponent + 1 - (1 : ℕ) = d.exponent := by omega
      rw [ih, ← ofDecimal_mul_ten_pow negative (d.digits / 10) 1, hdigits, hexponent]
    · rfl

theorem ofDecimal_exactDecimal (negative : Bool) (rank : Nat) :
    ofDecimal negative (exactDecimal rank).digits (exactDecimal rank).exponent =
      ofRank negative rank := by
  have hup : (min (unit rank) 0).toNat = 0 := by omega
  have hdown : (-min (unit rank) 0).toNat = (-unit rank).toNat := by omega
  have hpow (b n : Nat) : ((Nat.pow b n : Nat) : ℚ) = (b : ℚ) ^ n := by
    rw [Nat.pow_eq]
    push_cast
    rfl
  rw [ofDecimal_eq_ofRatio, ← ofRatio_ratio]
  simp only [exactDecimal, hup, hdown, ratio]
  refine ofRatio_congr (Nat.pow_pos (by norm_num)) (Nat.two_pow_pos _) ?_ negative
  have hten : (10 : ℚ) ^ (-unit rank).toNat = 5 ^ (-unit rank).toNat * 2 ^ (-unit rank).toNat := by
    rw [← mul_pow]
    norm_num
  push_cast [hpow]
  rw [hten]
  field_simp

theorem ofDecimal_of_readsAs {rank : Nat} (hrank : rank < rankBound) {d : Decimal}
    (h : readsAs rank d = true) (negative : Bool) :
    ofDecimal negative d.digits d.exponent = ofRank negative rank := by
  obtain ⟨r, hr⟩ := exists_rank_ofDecimal d.digits d.exponent
  have hread : ofDecimal false d.digits d.exponent = ofRank false rank := of_decide_eq_true h
  rw [hr] at hread ⊢
  rw [ofRank_inj hrank hread]

/-- What is written for a rank is read as that rank. -/
theorem ofDecimal_shortest (negative : Bool) (rank : Fin 0x7FF0000000000000) :
    ofDecimal negative (shortest rank).digits (shortest rank).exponent =
      .finite negative rank := by
  have hrank : rank.val < rankBound := rank.isLt
  have hfinite : ofRank negative rank = .finite negative rank := ofRank_of_lt hrank negative
  rw [← hfinite, shortest]
  split_ifs with hzero
  · rw [hzero]
    rfl
  · rw [ofDecimal_trimZeros]
    cases hfind : ((List.range 17).flatMap fun i =>
        (grid (ratio rank).1 (ratio rank).2 (i + 1)).points).find? (readsAs rank) with
    | none => exact ofDecimal_exactDecimal negative rank
    | some d =>
      exact ofDecimal_of_readsAs hrank (List.find?_some hfind) negative

theorem exponent_shortest_of_digits {rank : Nat} (hrank : rank < rankBound)
    (h : (shortest rank).digits = 0) : (shortest rank).exponent = 0 := by
  have hread := ofDecimal_shortest false ⟨rank, hrank⟩
  rw [h, ofDecimal, if_pos rfl] at hread
  have hzero : rank = 0 := (congrArg Fin.val (Binary64.finite.inj hread).2).symm
  rw [hzero]
  rfl

end Binary64

end CompletionWire
