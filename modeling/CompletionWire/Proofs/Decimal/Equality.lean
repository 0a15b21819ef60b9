import CompletionWire.Proofs.Decimal.Rounding

/-!
# Equal numbers

Apart from what is not a number, equality of numbers is an equivalence, which takes the two zeros
for one. Numbers that are equal to one whole number are equal to each other, since no two ranks have
one magnitude.
-/

namespace CompletionWire

namespace Binary64

variable {x y z : Binary64}

/-- Equal numbers are the same, or else they are the two zeros. -/
theorem equals_iff :
    x.equals y = true ↔ x ≠ .nan ∧ (x = y ∨ ∃ a b, x = zero a ∧ y = zero b) := by
  constructor
  · intro h
    cases x with
    | nan => cases h
    | infinity a =>
      cases y with
      | nan | finite => cases h
      | infinity b => exact ⟨nofun, .inl (congrArg _ (of_decide_eq_true h))⟩
    | finite a r =>
      cases y with
      | nan | infinity => cases h
      | finite b s =>
        simp only [equals, Bool.and_eq_true, Bool.or_eq_true, decide_eq_true_iff] at h
        obtain ⟨rfl, rfl | hzero⟩ := h
        · exact ⟨nofun, .inl rfl⟩
        · obtain rfl : r = ⟨0, by decide⟩ := Fin.ext hzero
          exact ⟨nofun, .inr ⟨a, b, rfl, rfl⟩⟩
  · intro h
    obtain ⟨hx, rfl | ⟨a, b, rfl, rfl⟩⟩ := h
    · cases x with
      | nan => exact absurd rfl hx
      | infinity | finite => simp [equals]
    · simp [equals, zero]

theorem equals_self (h : x ≠ .nan) : x.equals x = true := equals_iff.2 ⟨h, .inl rfl⟩

theorem equals_symm (h : x.equals y = true) : y.equals x = true := by
  obtain ⟨hx, rfl | ⟨a, b, rfl, rfl⟩⟩ := equals_iff.1 h
  · exact h
  · exact equals_iff.2 ⟨nofun, .inr ⟨b, a, rfl, rfl⟩⟩

theorem equals_trans (h : x.equals y = true) (h' : y.equals z = true) : x.equals z = true := by
  obtain ⟨hx, rfl | ⟨a, b, rfl, rfl⟩⟩ := equals_iff.1 h
  · exact h'
  · obtain ⟨-, rfl | ⟨_, c, -, rfl⟩⟩ := equals_iff.1 h'
    · exact h
    · exact equals_iff.2 ⟨hx, .inr ⟨a, c, rfl, rfl⟩⟩

theorem ofDecimal_ne_nan (negative : Bool) (digits : Nat) (exponent : Int) :
    ofDecimal negative digits exponent ≠ .nan := by
  obtain ⟨rank, h⟩ := exists_rank_ofDecimal digits exponent
  rw [h, ofRank]
  intro hnan
  split at hnan <;> cases hnan

/-! ### Whole numbers -/

/-- No two ranks have one magnitude. -/
theorem rank_eq_of_ratio {r s : Nat} (hs : s < rankBound)
    (h : ((ratio r).1 : ℚ) / (ratio r).2 = (ratio s).1 / (ratio s).2) : r = s := by
  have hpos (rank : Nat) : 0 < (ratio rank).2 := Nat.two_pow_pos _
  refine ofRank_inj hs (?_ : ofRank false r = ofRank false s)
  rw [← ofRatio_ratio, ← ofRatio_ratio]
  exact ofRatio_congr (hpos r) (hpos s) h false

theorem ratio_zero : (ratio 0).1 = 0 := by
  rw [ratio, show significand 0 = 0 from rfl, Nat.zero_mul]

/-- What is equal to a whole number has its magnitude, and its sign unless that is zero. -/
theorem exists_finite_of_toInt? {n : Int} (h : x.toInt? = some n) :
    ∃ negative rank, x = .finite negative rank ∧
      ((ratio rank).1 : ℚ) / (ratio rank).2 = n.natAbs ∧ (n ≠ 0 → negative = decide (n < 0)) := by
  cases x with
  | nan | infinity => cases h
  | finite negative rank =>
    dsimp only [toInt?] at h
    obtain ⟨hrest, hn⟩ := Option.ite_none_right_eq_some.1 h
    obtain rfl := Option.some.inj hn
    obtain ⟨q, hq⟩ := Nat.dvd_of_mod_eq_zero hrest
    have hpos : 0 < (ratio rank).2 := Nat.two_pow_pos _
    have hquotient : (ratio rank).1 / (ratio rank).2 = q := by
      rw [hq, Nat.mul_div_cancel_left q hpos]
    have hmagnitude : ((ratio rank).1 : ℚ) / (ratio rank).2 = q := by
      have hden : ((ratio rank).2 : ℚ) ≠ 0 := by exact_mod_cast hpos.ne'
      rw [hq, Nat.cast_mul, mul_div_cancel_left₀ _ hden]
    rw [hquotient]
    refine ⟨negative, rank, rfl, ?_⟩
    cases negative with
    | true => simp [hmagnitude, Nat.pos_iff_ne_zero]
    | false => simp [hmagnitude]

theorem equals_of_toInt? {n : Int} (hx : x.toInt? = some n) (hy : y.toInt? = some n) :
    x.equals y = true := by
  obtain ⟨a, r, rfl, hr, ha⟩ := exists_finite_of_toInt? hx
  obtain ⟨b, s, rfl, hs, hb⟩ := exists_finite_of_toInt? hy
  have hranks : r = s := Fin.ext (rank_eq_of_ratio s.isLt (hr.trans hs.symm))
  rw [equals, decide_eq_true hranks, Bool.true_and, Bool.or_eq_true, decide_eq_true_iff,
    decide_eq_true_iff]
  rcases eq_or_ne n 0 with rfl | hn
  · right
    refine rank_eq_of_ratio (by decide) (hr.trans ?_)
    rw [ratio_zero, Int.natAbs_zero, Nat.cast_zero, zero_div]
  · exact .inl ((ha hn).trans (hb hn).symm)

theorem toInt?_zero (negative : Bool) : (zero negative).toInt? = some 0 := by
  dsimp only [zero, toInt?]
  rw [ratio_zero, Nat.zero_mod, Nat.zero_div, if_pos rfl]
  cases negative <;> rfl

end Binary64

end CompletionWire
