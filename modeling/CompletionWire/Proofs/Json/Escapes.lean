import CompletionWire.Json.Writer
import CompletionWire.Proofs.Json.Grammar

/-!
# Written strings

A written string is in the grammar. What it writes is the string itself, but for one case: text that
is all ASCII has surrogates as numbers, so that a high one with a low one directly behind it cannot
be told from the pair that stands for one code point. Both come back as that code point.
-/

namespace CompletionWire

namespace Text

/-- A high surrogate stands directly in front of a low one. -/
def HasSurrogatePair (t : Text) : Prop :=
  ∃ high low : CodePoint, high.isHighSurrogate = true ∧ low.isLowSurrogate = true ∧
    [high, low] <:+: t

/-- The text with one code point for every surrogate pair. -/
def joined : Text → Text
  | [] => []
  | [c] => [c]
  | c :: d :: rest =>
    if c.isHighSurrogate ∧ d.isLowSurrogate then CodePoint.joinSurrogates c d :: joined rest
    else c :: joined (d :: rest)

theorem length_joined_le (t : Text) : t.joined.length ≤ t.length := by
  fun_induction joined t with
  | case1 | case2 c => exact Nat.le_refl _
  | case3 c d rest hpair ih =>
    simp only [List.length_cons]
    omega
  | case4 c d rest hpair ih => simpa using ih

theorem joined_eq_self_iff {t : Text} : t.joined = t ↔ ¬t.HasSurrogatePair := by
  constructor
  · intro h hpair
    obtain ⟨high, low, hhigh, hlow, hwithin⟩ := hpair
    have hlength : t.joined.length = t.length := by rw [h]
    clear h
    fun_induction joined t with
    | case1 => exact absurd hwithin.length_le (by simp)
    | case2 c => exact absurd hwithin.length_le (by simp)
    | case3 c d rest hpair ih =>
      have := length_joined_le rest
      simp only [List.length_cons] at hlength
      omega
    | case4 c d rest hpair ih =>
      rcases List.infix_cons_iff.1 hwithin with hstart | hlater
      · obtain ⟨hc, hstart⟩ := List.cons_prefix_cons.1 hstart
        obtain ⟨hd, -⟩ := List.cons_prefix_cons.1 hstart
        exact hpair ⟨hc ▸ hhigh, hd ▸ hlow⟩
      · exact ih hlater (by simpa using hlength)
  · intro h
    fun_induction joined t with
    | case1 | case2 c => rfl
    | case3 c d rest hpair ih => exact absurd ⟨c, d, hpair.1, hpair.2, [], rest, rfl⟩ h
    | case4 c d rest hpair ih =>
      rw [ih]
      intro hrest
      obtain ⟨high, low, hhigh, hlow, hwithin⟩ := hrest
      exact h ⟨high, low, hhigh, hlow, List.infix_cons hwithin⟩

end Text

namespace Json

namespace Grammar

/-! ### Code points -/

theorem hexValue?_hexDigit {n : Nat} (hn : n < 16) : (CodePoint.hexDigit n).hexValue? = some n := by
  have hall : ∀ n < 16, (CodePoint.hexDigit n).hexValue? = some n := by decide
  exact hall n hn

theorem isUnit_unicodeEscape {c : CodePoint} (hc : c.val < 0x10000) :
    IsUnit (unicodeEscape c) c true := by
  have hdigit (n : Nat) : (CodePoint.hexDigit (n % 16)).hexValue? = some (n % 16) :=
    hexValue?_hexDigit (Nat.mod_lt n (by decide))
  have hvalue : Nat.ofDigits 16 [c.val % 16, c.val / 16 % 16, c.val / 16 / 16 % 16,
      c.val / 16 / 16 / 16 % 16] = c.val := by
    simp only [Nat.ofDigits_cons, Nat.ofDigits_nil]
    omega
  have hunit := IsUnit.numbered (hdigit (c.val / 16 / 16 / 16)) (hdigit (c.val / 16 / 16))
    (hdigit (c.val / 16)) (hdigit c.val)
  rwa [hvalue, CodePoint.ofNat_val] at hunit

/-- How a code point is written: with one ASCII character behind a backslash, by its number, as it
is, or by the numbers of two surrogates. -/
inductive Writes (asciiOnly : Bool) (c : CodePoint) : Text → Prop
  | short {d : CodePoint} (h : (d.val, c.val) ∈ shortEscapes) :
      Writes asciiOnly c [Text.backslash, d]
  | numbered (hc : c.val < 0x10000) (hplain : asciiOnly = false → c.val < 0x20) :
      Writes asciiOnly c (unicodeEscape c)
  | literal (h : IsUnit [c] c false) (hascii : asciiOnly = true → c.val < 0x7F) :
      Writes asciiOnly c [c]
  | pair (hc : 0x10000 ≤ c.val) :
      Writes asciiOnly c (unicodeEscape c.splitSurrogates.1 ++ unicodeEscape c.splitSurrogates.2)

theorem mem_shortEscapes_of_letter {c : CodePoint} {letter : Char}
    (h : escapeLetter? c = some letter) :
    ((CodePoint.ofChar letter).val, c.val) ∈ shortEscapes := by
  unfold escapeLetter? at h
  split_ifs at h with hb ht hn hf hr
  · rw [hb, ← Option.some.inj h]
    decide
  · rw [ht, ← Option.some.inj h]
    decide
  · rw [hn, ← Option.some.inj h]
    decide
  · rw [hf, ← Option.some.inj h]
    decide
  · rw [hr, ← Option.some.inj h]
    decide

theorem lt_of_mem_shortEscapes {m n : Nat} (h : (m, n) ∈ shortEscapes) : m < 0x80 ∧ n < 0x80 := by
  have hall : ∀ e ∈ shortEscapes, e.1 < 0x80 ∧ e.2 < 0x80 := by decide
  exact hall _ h

theorem writes_writeCodePoint (asciiOnly : Bool) (c : CodePoint) :
    Writes asciiOnly c (writeCodePoint asciiOnly c) := by
  rw [writeCodePoint]
  by_cases hself : c.val = 0x22 ∨ c.val = 0x5C
  · rw [if_pos hself]
    apply Writes.short
    rcases hself with h | h <;> rw [h] <;> decide
  rw [if_neg hself]
  cases hletter : escapeLetter? c with
  | some letter => exact .short (mem_shortEscapes_of_letter hletter)
  | none =>
    simp only
    split_ifs with hcontrol hraw hplane
    · exact .numbered (by omega) fun _ => hcontrol
    · refine .literal (.literal (by omega) ?_ ?_) fun hascii => ?_
      · intro h
        exact hself (.inl (by rw [h]; rfl))
      · intro h
        exact hself (.inr (by rw [h]; rfl))
      · simpa [hascii] using hraw
    · exact .numbered hplane fun hascii => absurd (by rw [hascii]; rfl) hraw
    · exact .pair (Nat.le_of_not_lt hplane)

/-- The units that a code point is written in: itself, or a pair of numbers. -/
inductive IsWritten (asciiOnly : Bool) (c : CodePoint) : List (CodePoint × Bool) → Prop
  | plain (hc : asciiOnly = true → c.isSurrogate = false) : IsWritten asciiOnly c [(c, false)]
  | numbered (hc : asciiOnly = false → c.isSurrogate = false) : IsWritten asciiOnly c [(c, true)]
  | pair (hc : 0x10000 ≤ c.val) :
      IsWritten asciiOnly c [(c.splitSurrogates.1, true), (c.splitSurrogates.2, true)]

theorem splitSurrogates_high {c : CodePoint} (hc : 0x10000 ≤ c.val) :
    c.splitSurrogates.1.isHighSurrogate = true := by
  have hlt := c.val_lt
  rw [CodePoint.splitSurrogates, CodePoint.isHighSurrogate, CodePoint.val_ofNat (by omega),
    Bool.and_eq_true, decide_eq_true_eq, decide_eq_true_eq]
  omega

theorem splitSurrogates_low (c : CodePoint) : c.splitSurrogates.2.isLowSurrogate = true := by
  rw [CodePoint.splitSurrogates, CodePoint.isLowSurrogate, CodePoint.val_ofNat (by omega),
    Bool.and_eq_true, decide_eq_true_eq, decide_eq_true_eq]
  omega

theorem val_lt_of_surrogate {c : CodePoint}
    (hc : c.isHighSurrogate = true ∨ c.isLowSurrogate = true) : c.val < 0x10000 := by
  simp only [CodePoint.isHighSurrogate, CodePoint.isLowSurrogate, Bool.and_eq_true,
    decide_eq_true_eq] at hc
  omega

theorem exists_isWritten {asciiOnly : Bool} {c : CodePoint} {w : Text} (hw : Writes asciiOnly c w) :
    ∃ us, IsUnits w us ∧ IsWritten asciiOnly c us := by
  have hone {w : Text} {numbered : Bool} (h : IsUnit w c numbered) : IsUnits w [(c, numbered)] := by
    have hcons := IsUnits.cons h .nil
    rwa [List.append_nil] at hcons
  have hsmall : c.val < 0xD800 → c.isSurrogate = false := by
    intro hc
    simp only [CodePoint.isSurrogate, Bool.and_eq_false_iff, decide_eq_false_iff_not]
    omega
  cases hw with
  | short h =>
    have hascii := (lt_of_mem_shortEscapes h).2
    exact ⟨_, hone (.short h), .plain fun _ => hsmall (by omega)⟩
  | numbered hc hplain =>
    refine ⟨_, hone (isUnit_unicodeEscape hc), .numbered fun hascii => hsmall ?_⟩
    exact (hplain hascii).trans (by decide)
  | literal h hascii =>
    exact ⟨_, hone h, .plain fun h => hsmall ((hascii h).trans (by decide))⟩
  | pair hc =>
    have hhigh := val_lt_of_surrogate (.inl (splitSurrogates_high hc))
    have hlow := val_lt_of_surrogate (.inr (splitSurrogates_low c))
    have hunits := IsUnits.cons (isUnit_unicodeEscape hhigh)
      (.cons (isUnit_unicodeEscape hlow) .nil)
    rw [List.append_nil] at hunits
    exact ⟨_, hunits, .pair hc⟩

/-! ### Strings -/

/-- A unit stands for itself unless it is the low half of what is kept back. -/
theorem joinPairs_cons {c : CodePoint} {numbered : Bool} {us : List (CodePoint × Bool)}
    (h : c.isHighSurrogate = true → ∀ d, us.head? = some (d, true) → d.isLowSurrogate = false) :
    joinPairs ((c, numbered) :: us) = c :: joinPairs us := by
  cases numbered with
  | false => exact joinPairs_literal c us
  | true =>
    cases hc : c.isHighSurrogate with
    | false => exact joinPairs_of_not_high hc us
    | true =>
      match us with
      | [] => simp only [joinPairs]
      | (d, false) :: us => rw [joinPairs_high_literal, joinPairs_literal]
      | (d, true) :: us => exact joinPairs_of_not_low (h hc d rfl) us

theorem joinPairs_split {c : CodePoint} (hc : 0x10000 ≤ c.val) (us : List (CodePoint × Bool)) :
    joinPairs ((c.splitSurrogates.1, true) :: (c.splitSurrogates.2, true) :: us) =
      c :: joinPairs us := by
  rw [joinPairs_pair (splitSurrogates_high hc) (splitSurrogates_low c),
    CodePoint.joinSurrogates_splitSurrogates hc]

/-- What a code point in front of others writes, if it does not join them. -/
theorem joinPairs_written {asciiOnly : Bool} {c : CodePoint} {us vs : List (CodePoint × Bool)}
    (hc : IsWritten asciiOnly c us)
    (h : c.isHighSurrogate = true → asciiOnly = true →
      ∀ d, vs.head? = some (d, true) → d.isLowSurrogate = false) :
    joinPairs (us ++ vs) = c :: joinPairs vs := by
  cases hc with
  | plain hc => exact joinPairs_literal c vs
  | numbered hc =>
    refine joinPairs_cons fun hhigh => h hhigh ?_
    by_contra hascii
    have hnot := hc (by simpa using hascii)
    rw [← Bool.not_eq_true, CodePoint.isSurrogate_iff] at hnot
    exact hnot (.inl hhigh)
  | pair hastral => exact joinPairs_split hastral vs

inductive AreWritten (asciiOnly : Bool) : Text → List (CodePoint × Bool) → Prop
  | nil : AreWritten asciiOnly [] []
  | cons {c : CodePoint} {s : Text} {us vs : List (CodePoint × Bool)}
      (hc : IsWritten asciiOnly c us) (hs : AreWritten asciiOnly s vs) :
      AreWritten asciiOnly (c :: s) (us ++ vs)

theorem isUnits_append {w ws : Text} {us vs : List (CodePoint × Bool)} (hw : IsUnits w us)
    (hws : IsUnits ws vs) : IsUnits (w ++ ws) (us ++ vs) := by
  induction hw with
  | nil => exact hws
  | cons hunit hrest ih =>
    rw [List.append_assoc]
    exact .cons hunit ih

theorem exists_areWritten (asciiOnly : Bool) (s : Text) :
    ∃ us, IsUnits (s.flatMap (writeCodePoint asciiOnly)) us ∧ AreWritten asciiOnly s us := by
  induction s with
  | nil => exact ⟨[], .nil, .nil⟩
  | cons c s ih =>
    obtain ⟨us, hus, hc⟩ := exists_isWritten (writes_writeCodePoint asciiOnly c)
    obtain ⟨vs, hvs, hs⟩ := ih
    exact ⟨us ++ vs, isUnits_append hus hvs, .cons hc hs⟩

theorem joinPairs_of_areWritten {s : Text} {us : List (CodePoint × Bool)}
    (h : AreWritten false s us) : joinPairs us = s := by
  induction h with
  | nil => simp only [joinPairs]
  | cons hc hs ih => rw [joinPairs_written hc (fun _ hascii => absurd hascii Bool.false_ne_true), ih]

theorem eq_numbered_of_isWritten {c : CodePoint} {us : List (CodePoint × Bool)}
    (h : IsWritten true c us) (hc : c.isHighSurrogate = true ∨ c.isLowSurrogate = true) :
    us = [(c, true)] := by
  cases h with
  | plain hnot =>
    rw [(c.isSurrogate_iff).2 hc] at hnot
    exact absurd (hnot rfl) (by decide)
  | numbered => rfl
  | pair hastral => exact absurd (val_lt_of_surrogate hc) (Nat.not_lt.2 hastral)

/-- What a code point is written in does not begin with a low surrogate, itself apart. -/
theorem not_low_of_isWritten {asciiOnly : Bool} {c d : CodePoint} {us vs : List (CodePoint × Bool)}
    (h : IsWritten asciiOnly c us) (hc : c.isLowSurrogate = false)
    (hd : (us ++ vs).head? = some (d, true)) : d.isLowSurrogate = false := by
  cases h with
  | plain => simp at hd
  | numbered =>
    simp only [List.cons_append, List.head?_cons, Option.some.injEq, Prod.mk.injEq, and_true] at hd
    rwa [← hd]
  | pair hastral =>
    simp only [List.cons_append, List.head?_cons, Option.some.injEq, Prod.mk.injEq, and_true] at hd
    have hhigh := splitSurrogates_high hastral
    rw [hd] at hhigh
    simp only [CodePoint.isHighSurrogate, CodePoint.isLowSurrogate, Bool.and_eq_true,
      Bool.and_eq_false_iff, decide_eq_true_eq, decide_eq_false_iff_not] at hhigh ⊢
    omega

theorem joinPairs_of_areWritten_ascii {s : Text} {us : List (CodePoint × Bool)}
    (h : AreWritten true s us) : joinPairs us = s.joined := by
  fun_induction Text.joined s generalizing us with
  | case1 =>
    cases h
    simp only [joinPairs]
  | case2 c =>
    obtain _ | ⟨hc, hs⟩ := h
    cases hs
    rw [joinPairs_written hc (by simp)]
    simp only [joinPairs]
  | case3 c d rest hpair ih =>
    obtain _ | ⟨hc, hs⟩ := h
    obtain _ | ⟨hd, hrest⟩ := hs
    rw [eq_numbered_of_isWritten hc (.inl hpair.1), eq_numbered_of_isWritten hd (.inr hpair.2)]
    exact (joinPairs_pair hpair.1 hpair.2 _).trans (congrArg _ (ih hrest))
  | case4 c d rest hpair ih =>
    obtain _ | ⟨hc, hs⟩ := h
    have hnot : c.isHighSurrogate = true → d.isLowSurrogate = false := by
      intro hhigh
      by_contra hlow
      exact hpair ⟨hhigh, by simpa using hlow⟩
    rw [← ih hs]
    refine joinPairs_written hc fun hhigh _ e he => ?_
    obtain _ | ⟨hd, hrest⟩ := hs
    exact not_low_of_isWritten hd (hnot hhigh) he

/-- What the text of a string is read as. -/
def readBack (asciiOnly : Bool) (s : Text) : Text := if asciiOnly then s.joined else s

theorem isString_writeString (asciiOnly : Bool) (s : Text) :
    IsString (writeString asciiOnly s) (readBack asciiOnly s) := by
  obtain ⟨us, hus, hs⟩ := exists_areWritten asciiOnly s
  refine ⟨_, us, hus, rfl, ?_⟩
  cases asciiOnly with
  | false => exact (joinPairs_of_areWritten hs).symm
  | true => exact (joinPairs_of_areWritten_ascii hs).symm

end Grammar

end Json

end CompletionWire
