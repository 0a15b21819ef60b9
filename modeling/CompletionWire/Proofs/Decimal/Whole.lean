import CompletionWire.Decimal.Binary64
import Mathlib.Tactic.Linarith
import Mathlib.Tactic.Ring

/-!
# Whole numbers among binary64 numbers

A whole number of at most 53 binary digits, counted without the zeros at its end, is a binary64
number: nothing is rounded, and its rank is a formula in its logarithm. Ranks of such numbers stand
in the order of the numbers themselves, so comparing, choosing the larger and choosing the smaller
may be done on whole numbers. All whole numbers up to `2 ^ 53` and all powers of two are of this
kind; a power beyond the range has the rank of an infinity, which keeps the order as well.
-/

namespace CompletionWire

namespace Binary64

/-- A number that needs at most 53 binary digits in front of its final zeros. -/
def IsShort (n : Nat) : Prop := 2 ^ (n.log2 - 52) ∣ n

/-- The significand of a short number: its digits, moved up to 53 of them. -/
def shortSignificand (n : Nat) : Nat := n * 2 ^ (52 - n.log2) / 2 ^ (n.log2 - 52)

def shortRank (n : Nat) : Nat :=
  if n = 0 then 0 else (n.log2 + 1022) * ranksPerExponent + shortSignificand n

theorem isShort_of_le {n : Nat} (h : n ≤ 2 ^ 53) : IsShort n := by
  rcases Nat.lt_or_ge n (2 ^ 53) with hlt | hge
  · have hlog : n.log2 - 52 = 0 := by
      rcases Nat.eq_zero_or_pos n with rfl | hpos
      · decide
      · have := (Nat.log2_lt (Nat.ne_of_gt hpos)).mpr hlt
        omega
    simp [IsShort, hlog]
  · rw [Nat.le_antisymm h hge]
    exact ⟨2 ^ 52, by rw [Nat.log2_two_pow]; norm_num⟩

theorem isShort_two_pow (i : Nat) : IsShort (2 ^ i) := by
  rw [IsShort, Nat.log2_two_pow]
  exact pow_dvd_pow 2 (by omega)

/-! ### The rank of a short number -/

theorem shortSignificand_mul {n : Nat} (h : IsShort n) :
    shortSignificand n * 2 ^ n.log2 = n * 2 ^ 52 := by
  rw [IsShort] at h
  rw [shortSignificand]
  rcases Nat.le_total n.log2 52 with hle | hle
  · have hzero : n.log2 - 52 = 0 := by omega
    rw [hzero, pow_zero, Nat.div_one, mul_assoc, ← pow_add]
    congr 2
    omega
  · obtain ⟨k, hk⟩ := h
    have hzero : 52 - n.log2 = 0 := by omega
    have hdiv : n / 2 ^ (n.log2 - 52) = k := Nat.div_eq_of_eq_mul_right (Nat.two_pow_pos _) hk
    have hpow : 2 ^ n.log2 = 2 ^ (n.log2 - 52) * 2 ^ 52 := by
      rw [← pow_add]
      congr 1
      omega
    rw [hzero, pow_zero, mul_one, hdiv, hpow, ← mul_assoc, mul_comm k, ← hk]

theorem le_shortSignificand {n : Nat} (h : IsShort n) (hn : n ≠ 0) :
    2 ^ 52 ≤ shortSignificand n := by
  have hmul := shortSignificand_mul h
  have hlog := Nat.log2_self_le hn
  by_contra hlt
  have := Nat.mul_lt_mul_of_lt_of_le (Nat.lt_of_not_le hlt) hlog (Nat.pos_of_ne_zero hn)
  rw [hmul, mul_comm] at this
  exact lt_irrefl _ this

theorem shortSignificand_lt {n : Nat} (h : IsShort n) : shortSignificand n < 2 ^ 53 := by
  have hmul := shortSignificand_mul h
  have hlog : n < 2 ^ (n.log2 + 1) := Nat.lt_log2_self
  have hpos : 0 < 2 ^ n.log2 := Nat.two_pow_pos _
  by_contra hge
  have hle := Nat.mul_le_mul_right (2 ^ n.log2) (Nat.le_of_not_lt hge)
  rw [hmul] at hle
  have hsucc : 2 ^ (n.log2 + 1) = 2 * 2 ^ n.log2 := by ring
  omega

theorem binaryExponent_one {n : Nat} (hn : n ≠ 0) : binaryExponent n 1 = n.log2 := by
  have hone : Nat.log2 1 = 0 := by decide
  have hlog : 2 ^ n.log2 ≤ n := Nat.log2_self_le hn
  simp [binaryExponent, hone, hlog]

theorem roundQuotient_of_dvd {num den : Nat} (hden : 0 < den) (h : den ∣ num) :
    roundQuotient num den = num / den := by
  have hrest : num % den = 0 := Nat.mod_eq_zero_of_dvd h
  simp [roundQuotient, hrest, hden]

theorem ofRatio_of_isShort {n : Nat} (h : IsShort n) (negative : Bool) :
    ofRatio negative n 1 = ofRank negative (shortRank n) := by
  rcases eq_or_ne n 0 with rfl | hn
  · simp [ofRatio, shortRank, ofRank, zero]
  · have hunit : max (binaryExponent n 1 - 52) (-1074) = (n.log2 : Int) - 52 := by
      rw [binaryExponent_one hn]
      omega
    have hup : (-((n.log2 : Int) - 52)).toNat = 52 - n.log2 := by omega
    have hdown : ((n.log2 : Int) - 52).toNat = n.log2 - 52 := by omega
    have hplace : ((n.log2 : Int) - 52 + 1074).toNat = n.log2 + 1022 := by omega
    have hdvd : 2 ^ (n.log2 - 52) ∣ n * 2 ^ (52 - n.log2) := Dvd.dvd.mul_right h _
    have hround := roundQuotient_of_dvd (Nat.two_pow_pos _) hdvd
    simp only [ofRatio, if_neg hn, hunit, hup, hdown, Nat.pow_eq, one_mul, hround, rankOf, hplace,
      shortRank, shortSignificand]

/-! ### Order -/

theorem shortRank_lt {m n : Nat} (hm : IsShort m) (hn : IsShort n) (h : m < n) :
    shortRank m < shortRank n := by
  have hn0 : n ≠ 0 := by omega
  have hnlow := le_shortSignificand hn hn0
  rw [shortRank, shortRank, if_neg hn0]
  rcases eq_or_ne m 0 with rfl | hm0
  · rw [if_pos rfl]
    omega
  · rw [if_neg hm0]
    have hmhigh := shortSignificand_lt hm
    rcases Nat.lt_or_ge m.log2 n.log2 with hlog | hlog
    · have := Nat.mul_le_mul_right ranksPerExponent
        (show m.log2 + 1 + 1022 ≤ n.log2 + 1022 by omega)
      simp only [ranksPerExponent] at *
      omega
    · have hle : m.log2 ≤ n.log2 := by
        by_contra hgt
        have := Nat.pow_le_pow_right (show 0 < 2 by omega) (show n.log2 + 1 ≤ m.log2 by omega)
        have := Nat.log2_self_le hm0
        have : n < 2 ^ (n.log2 + 1) := Nat.lt_log2_self
        omega
      have heq : m.log2 = n.log2 := by omega
      have hsig : shortSignificand m < shortSignificand n := by
        apply Nat.lt_of_mul_lt_mul_right (a := 2 ^ n.log2)
        rw [shortSignificand_mul hn, ← heq, shortSignificand_mul hm]
        omega
      rw [heq]
      omega

/-- The rank that an infinity has in the order. -/
def rankBound : Nat := 0x7FF0000000000000

theorem shortRank_lt_rankBound {n : Nat} (h : n ≤ 2 ^ 53) : shortRank n < rankBound := by
  have hmono : shortRank n ≤ shortRank (2 ^ 53) := by
    rcases Nat.eq_or_lt_of_le h with rfl | hlt
    · exact le_rfl
    · exact Nat.le_of_lt (shortRank_lt (isShort_of_le h) (isShort_two_pow 53) hlt)
  have hlast : shortRank (2 ^ 53) < rankBound := by
    have := shortSignificand_lt (isShort_two_pow 53)
    rw [shortRank, if_neg (by decide), Nat.log2_two_pow]
    simp only [ranksPerExponent, rankBound]
    omega
  omega

theorem ofRank_of_lt {rank : Nat} (h : rank < rankBound) (negative : Bool) :
    ofRank negative rank = .finite negative ⟨rank, h⟩ := dif_pos h

theorem ofRank_of_le {rank : Nat} (h : rankBound ≤ rank) (negative : Bool) :
    ofRank negative rank = .infinity negative := dif_neg (Nat.not_lt.mpr h)

theorem order_ofRank (negative : Bool) (rank : Nat) :
    (ofRank negative rank).order =
      if negative then -(min rank rankBound : Int) else (min rank rankBound : Int) := by
  rcases Nat.lt_or_ge rank rankBound with h | h
  · have hmin : min (rank : Int) rankBound = rank := by omega
    rw [hmin, ofRank_of_lt h]
    rfl
  · have hmin : min (rank : Int) rankBound = rankBound := by omega
    rw [hmin, ofRank_of_le h]
    rfl

theorem order_ofInt {a : Int} (h : IsShort a.natAbs) :
    (ofInt a).order =
      if a < 0 then -(min (shortRank a.natAbs) rankBound : Int)
      else (min (shortRank a.natAbs) rankBound : Int) := by
  rw [ofInt, ofRatio_of_isShort h, order_ofRank]
  simp

/-- Short numbers stand in the order of whole numbers; one of the two must be in range. -/
theorem order_ofInt_lt_iff {a b : Int} (ha : IsShort a.natAbs) (hb : IsShort b.natAbs)
    (hrange : a.natAbs ≤ 2 ^ 53 ∨ b.natAbs ≤ 2 ^ 53) :
    (ofInt a).order < (ofInt b).order ↔ a < b := by
  have hsize : shortRank a.natAbs < rankBound ∨ shortRank b.natAbs < rankBound :=
    hrange.imp shortRank_lt_rankBound shortRank_lt_rankBound
  have hzero : ∀ n, IsShort n → (shortRank n = 0 ↔ n = 0) := by
    intro n hn
    refine ⟨fun h => ?_, fun h => by rw [h]; rfl⟩
    by_contra h0
    have := shortRank_lt (isShort_of_le (Nat.zero_le _)) hn (Nat.pos_of_ne_zero h0)
    omega
  have hazero := hzero _ ha
  have hbzero := hzero _ hb
  have hcmp : a.natAbs < b.natAbs ∧ shortRank a.natAbs < shortRank b.natAbs ∨
      a.natAbs = b.natAbs ∧ shortRank a.natAbs = shortRank b.natAbs ∨
      b.natAbs < a.natAbs ∧ shortRank b.natAbs < shortRank a.natAbs := by
    rcases Nat.lt_trichotomy a.natAbs b.natAbs with h | h | h
    · exact .inl ⟨h, shortRank_lt ha hb h⟩
    · exact .inr (.inl ⟨h, by rw [h]⟩)
    · exact .inr (.inr ⟨h, shortRank_lt hb ha h⟩)
  rw [order_ofInt ha, order_ofInt hb]
  split_ifs <;> omega

theorem larger_ofInt {a b : Int} (ha : IsShort a.natAbs) (hb : IsShort b.natAbs)
    (hrange : a.natAbs ≤ 2 ^ 53 ∨ b.natAbs ≤ 2 ^ 53) :
    (ofInt a).larger (ofInt b) = ofInt (max a b) := by
  rw [larger]
  by_cases h : a < b
  · rw [if_pos ((order_ofInt_lt_iff ha hb hrange).mpr h), max_eq_right h.le]
  · rw [if_neg (mt (order_ofInt_lt_iff ha hb hrange).mp h), max_eq_left (by omega)]

theorem smaller_ofInt {a b : Int} (ha : IsShort a.natAbs) (hb : IsShort b.natAbs)
    (hrange : a.natAbs ≤ 2 ^ 53 ∨ b.natAbs ≤ 2 ^ 53) :
    (ofInt a).smaller (ofInt b) = ofInt (min a b) := by
  rw [smaller]
  by_cases h : b < a
  · rw [if_pos ((order_ofInt_lt_iff hb ha hrange.symm).mpr h), min_eq_right h.le]
  · rw [if_neg (mt (order_ofInt_lt_iff hb ha hrange.symm).mp h), min_eq_left (by omega)]

/-! ### Exactness -/

theorem ofInt_of_le {a : Int} (h : a.natAbs ≤ 2 ^ 53) :
    ofInt a = .finite (decide (a < 0)) ⟨shortRank a.natAbs, shortRank_lt_rankBound h⟩ := by
  rw [ofInt, ofRatio_of_isShort (isShort_of_le h), ofRank_of_lt (shortRank_lt_rankBound h)]

theorem isFinite_ofInt {a : Int} (h : a.natAbs ≤ 2 ^ 53) : (ofInt a).isFinite = true := by
  rw [ofInt_of_le h]
  rfl

/-- The magnitude of the rank of a short number is the number. -/
theorem ratio_shortRank {n : Nat} (h : IsShort n) (hn : n ≠ 0) :
    ratio (shortRank n) =
      (shortSignificand n * 2 ^ (n.log2 - 52), 2 ^ (52 - n.log2)) := by
  have hlow := le_shortSignificand h hn
  have hhigh := shortSignificand_lt h
  have hrank : shortRank n = (n.log2 + 1022) * ranksPerExponent + shortSignificand n := if_neg hn
  have hquotient : shortRank n / ranksPerExponent = n.log2 + 1023 := by
    rw [hrank]
    simp only [ranksPerExponent]
    omega
  have hsig : significand (shortRank n) = shortSignificand n := by
    rw [significand, if_neg (by rw [hrank]; simp only [ranksPerExponent]; omega), hrank]
    simp only [ranksPerExponent]
    omega
  have hunit : unit (shortRank n) = (n.log2 : Int) - 52 := by
    rw [unit, hquotient]
    omega
  have hup : ((n.log2 : Int) - 52).toNat = n.log2 - 52 := by omega
  have hdown : (-((n.log2 : Int) - 52)).toNat = 52 - n.log2 := by omega
  rw [ratio, hsig, hunit, hup, hdown, Nat.pow_eq, Nat.pow_eq]

theorem shortSignificand_ratio {n : Nat} (h : IsShort n) :
    shortSignificand n * 2 ^ (n.log2 - 52) = n * 2 ^ (52 - n.log2) := by
  have hdvd : 2 ^ (n.log2 - 52) ∣ n * 2 ^ (52 - n.log2) := Dvd.dvd.mul_right h _
  exact Nat.div_mul_cancel hdvd

/-- A whole number of at most `2 ^ 53` is kept exactly. -/
theorem toInt?_ofInt {a : Int} (h : a.natAbs ≤ 2 ^ 53) : (ofInt a).toInt? = some a := by
  have hshort := isShort_of_le h
  rcases eq_or_ne a 0 with rfl | ha
  · simp [ofInt, ofRatio, zero, toInt?, ratio, significand, ranksPerExponent]
  · rw [ofInt_of_le h]
    have hn : a.natAbs ≠ 0 := Int.natAbs_ne_zero.mpr ha
    have hpos : 0 < 2 ^ (52 - a.natAbs.log2) := Nat.two_pow_pos _
    simp only [toInt?, ratio_shortRank hshort hn, shortSignificand_ratio hshort,
      Nat.mul_mod_left, Nat.mul_div_cancel _ hpos, if_true, Option.some.injEq, decide_eq_true_eq]
    omega

end Binary64

end CompletionWire
