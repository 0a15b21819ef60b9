import CompletionWire.Text.Lowercase
import Mathlib.Tactic.SplitIfs

/-!
# Lower case within ASCII

A code point beyond ASCII has no small letter in ASCII, with one exception: the Kelvin sign becomes
a `k`. The capital with a dot becomes an `i`, but the dot stays behind it, and a final sigma is not
in ASCII either. So a text comes by lower-casing to a given text in ASCII that has no `k` if it does
so by its ASCII letters alone, and only then.
-/

namespace CompletionWire

namespace CodePoint

variable {c : CodePoint}

def kelvinSign : CodePoint := ⟨0x212A, by decide⟩

/-! ### Small letters -/

/-- All runs of capitals but the first are beyond ASCII, and so are their small letters, unless the
run is that of the Kelvin sign. -/
theorem mem_capitalRuns_cases : ∀ run ∈ capitalRuns,
    (run.first = 0x41 ∧ run.last = 0x5A ∧ run.offset = 0x20) ∨
    (0x80 ≤ run.first ∧ (run.first = 0x212A ∧ run.last = 0x212A ∨
      0x80 ≤ (run.first : Int) + run.offset)) := by
  decide +kernel

/-- A code point stays as it is if it is in no run, and else has the offset of a run that it lies
between the ends of. -/
theorem smallLetter_cases (c : CodePoint) :
    ((∀ run ∈ capitalRuns, run.first ≤ c.val → c.val ≤ run.last →
      (c.val - run.first) % run.step ≠ 0) ∧ c.smallLetter = c) ∨
    ∃ run ∈ capitalRuns, run.first ≤ c.val ∧ c.val ≤ run.last ∧
      c.smallLetter = ofNat ((c.val : Int) + run.offset).toNat := by
  rw [smallLetter]
  split
  · rename_i run hrun
    have hfits := List.find?_some hrun
    simp only [Bool.and_eq_true, decide_eq_true_eq] at hfits
    exact .inr ⟨run, List.mem_of_find?_eq_some hrun, hfits.1.1, hfits.1.2, rfl⟩
  · rename_i hnone
    refine .inl ⟨fun run hrun hfirst hlast hstep => ?_, rfl⟩
    exact List.find?_eq_none.1 hnone run hrun (by simp [hfirst, hlast, hstep])

theorem asciiLower_lt_iff : c.asciiLower.val < 0x80 ↔ c.val < 0x80 := by
  rw [asciiLower]
  split
  · rw [val_ofNat (by omega)]
    omega
  · rfl

theorem smallLetter_of_lt (hc : c.val < 0x80) : c.smallLetter = c.asciiLower := by
  rcases smallLetter_cases c with ⟨hnone, hsame⟩ | ⟨run, hrun, hfirst, hlast, hlower⟩
  · have hletter : ¬(0x41 ≤ c.val ∧ c.val ≤ 0x5A) := fun hcapital =>
      hnone ⟨0x41, 0x5A, 1, 32⟩ List.mem_cons_self hcapital.1 hcapital.2 (Nat.mod_one _)
    rw [hsame, asciiLower, if_neg hletter]
  · rcases mem_capitalRuns_cases run hrun with ⟨hA, hZ, hoffset⟩ | ⟨hbeyond, -⟩
    · have hnumber : ((c.val : Int) + run.offset).toNat = c.val + 0x20 := by omega
      rw [hlower, asciiLower, if_pos (by omega), hnumber]
    · omega

theorem le_smallLetter (hc : 0x80 ≤ c.val) (hkelvin : c ≠ kelvinSign) :
    0x80 ≤ c.smallLetter.val := by
  rcases smallLetter_cases c with ⟨-, hsame⟩ | ⟨run, hrun, hfirst, hlast, hlower⟩
  · rwa [hsame]
  · rcases mem_capitalRuns_cases run hrun with hletters | ⟨-, ⟨hfirst', hlast'⟩ | hbeyond⟩
    · omega
    · exact absurd (ext (by change c.val = 0x212A; omega)) hkelvin
    · rw [hlower, ofNat]
      split
      · change 0x80 ≤ ((c.val : Int) + run.offset).toNat
        omega
      · decide

end CodePoint

namespace Text

variable {c : CodePoint} {before after t u : Text}

/-! ### Code points in their places -/

theorem lowerBetween_of_lt (hc : c.val < 0x80) (before after : Text) :
    lowerBetween before c after = [c.asciiLower] := by
  have hsigma : c ≠ .capitalSigma := by
    rintro rfl
    exact absurd hc (by decide)
  rw [lowerBetween, if_neg hsigma, CodePoint.lower, if_neg (by omega), CodePoint.smallLetter_of_lt hc]

theorem lowerBetween_ne_nil (before : Text) (c : CodePoint) (after : Text) :
    lowerBetween before c after ≠ [] := by
  rw [lowerBetween, CodePoint.lower]
  split_ifs <;> simp

/-- What a code point beyond ASCII becomes is not within ASCII, wherever it stands. -/
theorem exists_mem_lowerBetween (hc : 0x80 ≤ c.val) (hkelvin : c ≠ .kelvinSign)
    (before after : Text) : ∃ d ∈ lowerBetween before c after, 0x80 ≤ d.val := by
  have hsmall : ∃ d ∈ [c.smallLetter], 0x80 ≤ d.val :=
    ⟨_, List.mem_singleton_self _, CodePoint.le_smallLetter hc hkelvin⟩
  rw [lowerBetween, CodePoint.lower]
  split_ifs
  · exact ⟨_, List.mem_singleton_self _, by decide⟩
  · exact hsmall
  · exact ⟨CodePoint.ofNat 0x307, by simp, by decide⟩
  · exact hsmall

theorem lowerBetween_kelvinSign (before after : Text) :
    lowerBetween before .kelvinSign after = [CodePoint.ofChar 'k'] := by
  have hsigma : CodePoint.kelvinSign ≠ .capitalSigma := by decide
  rw [lowerBetween, if_neg hsigma]
  decide +kernel

/-- Where a small form is within ASCII and has no `k`, it is that of ASCII. -/
theorem lowerBetween_eq_of_forall
    (hforall : ∀ d ∈ lowerBetween before c after, d.val < 0x80 ∧ d ≠ CodePoint.ofChar 'k') :
    lowerBetween before c after = [c.asciiLower] := by
  by_cases hc : c.val < 0x80
  · exact lowerBetween_of_lt hc before after
  · by_cases hkelvin : c = .kelvinSign
    · rw [hkelvin, lowerBetween_kelvinSign] at hforall
      exact absurd rfl (hforall _ (List.mem_singleton_self _)).2
    · obtain ⟨d, hd, hle⟩ := exists_mem_lowerBetween (Nat.le_of_not_lt hc) hkelvin before after
      exact absurd (hforall d hd).1 (Nat.not_lt.2 hle)

/-! ### Texts -/

theorem lowerFrom_eq_append (before done rest : Text) :
    lowerFrom before done rest = done.reverse ++ lowerFrom before [] rest := by
  induction rest generalizing before done with
  | nil => simp [lowerFrom]
  | cons c rest ih =>
    rw [lowerFrom, lowerFrom, ih, ih (c :: before) (_ ++ [])]
    simp

theorem lowerFrom_cons (before : Text) (c : CodePoint) (rest : Text) :
    lowerFrom before [] (c :: rest) =
      lowerBetween before c rest ++ lowerFrom (c :: before) [] rest := by
  rw [lowerFrom, lowerFrom_eq_append]
  simp

theorem lower_ne_nil (ht : t ≠ []) : t.lower ≠ [] := by
  obtain ⟨c, t, rfl⟩ := List.exists_cons_of_ne_nil ht
  rw [lower, lowerFrom_cons]
  exact List.append_ne_nil_of_left_ne_nil (lowerBetween_ne_nil [] c t) _

theorem lowerFrom_of_isAscii (ht : ∀ c ∈ t, c.val < 0x80) (before : Text) :
    lowerFrom before [] t = t.map CodePoint.asciiLower := by
  induction t generalizing before with
  | nil => rfl
  | cons c t ih =>
    obtain ⟨hc, ht⟩ := List.forall_mem_cons.1 ht
    rw [lowerFrom_cons, lowerBetween_of_lt hc, ih ht]
    rfl

theorem lower_of_isAscii (ht : ∀ c ∈ t, c.val < 0x80) : t.lower = t.map CodePoint.asciiLower :=
  lowerFrom_of_isAscii ht []

theorem lowerFrom_eq_of_forall
    (hforall : ∀ d ∈ lowerFrom before [] t, d.val < 0x80 ∧ d ≠ CodePoint.ofChar 'k') :
    lowerFrom before [] t = t.map CodePoint.asciiLower := by
  induction t generalizing before with
  | nil => rfl
  | cons c t ih =>
    rw [lowerFrom_cons] at hforall ⊢
    obtain ⟨hfirst, hrest⟩ := List.forall_mem_append.1 hforall
    rw [lowerBetween_eq_of_forall hfirst, ih hrest]
    rfl

/-- A text in ASCII without a `k` is the lower-case form of just those texts that come to it by
their ASCII letters. -/
theorem lower_eq_iff (hu : ∀ d ∈ u, d.val < 0x80 ∧ d ≠ CodePoint.ofChar 'k') :
    t.lower = u ↔ t.map CodePoint.asciiLower = u := by
  constructor
  · rintro rfl
    exact (lowerFrom_eq_of_forall hu).symm
  · rintro rfl
    refine lower_of_isAscii fun c hc => ?_
    exact CodePoint.asciiLower_lt_iff.1 (hu _ (List.mem_map_of_mem hc)).1

end Text

end CompletionWire
