import CompletionWire.Proofs.Json.Numbers
import CompletionWire.Proofs.Json.Strings

/-!
# Reading scalars

Blanks, words, numbers and strings, each in both directions: what is read is in the grammar, and
what is in the grammar is read as soon as nothing follows that could continue it.
-/

namespace CompletionWire

namespace Json

namespace Reader

open Grammar

/-! ### Blanks -/

theorem isJsonBlank_iff {c : CodePoint} : isJsonBlank c = true ↔ c.val ∈ blanks := by
  simp [isJsonBlank, blanks, or_assoc]

theorem exists_isBlanks_skipBlanks (t : Text) : ∃ b, IsBlanks b ∧ t = b ++ skipBlanks t :=
  ⟨t.takeWhile isJsonBlank, fun _ hc => isJsonBlank_iff.1 (List.mem_takeWhile_imp hc),
    List.takeWhile_append_dropWhile.symm⟩

theorem skipBlanks_append {b : Text} (hb : IsBlanks b) (t : Text) :
    skipBlanks (b ++ t) = skipBlanks t :=
  List.dropWhile_append_of_pos fun c hc => isJsonBlank_iff.2 (hb c hc)

theorem skipBlanks_cons {c : CodePoint} (hc : isJsonBlank c = false) (t : Text) :
    skipBlanks (c :: t) = c :: t := by
  rw [skipBlanks, List.dropWhile_cons, hc]
  rfl

/-! ### Words -/

theorem isScalar_of_word? {limit? : Option Nat} {t rest : Text} {v : Json}
    (h : word? t = some (v, rest)) : ∃ w, IsScalar limit? w v ∧ t = w ++ rest := by
  obtain ⟨⟨w, u⟩, hmem, hfound⟩ := List.exists_of_findSome?_eq_some h
  obtain ⟨rest', hrest, hpair⟩ := Option.map_eq_some_iff.1 hfound
  obtain ⟨rfl, rfl⟩ := Prod.mk.inj hpair
  refine ⟨w, ?_, Text.eq_append_of_dropStart? hrest⟩
  simp only [words, List.mem_cons, Prod.mk.injEq, List.not_mem_nil, or_false] at hmem
  rcases hmem with ⟨rfl, rfl⟩ | ⟨rfl, rfl⟩ | ⟨rfl, rfl⟩
  · exact .null
  · exact .true
  · exact .false

theorem scalar_sign (rules : Rules) (negative : Bool) {d : CodePoint}
    (hd : d.isAsciiDigit = true) (rest : Text) :
    scalar rules (sign negative ++ d :: rest) = number rules (sign negative ++ d :: rest) := by
  have hne (x : Char) (hx : (CodePoint.ofChar x).isAsciiDigit = false) :
      CodePoint.ofChar x ≠ d := by
    intro heq
    subst heq
    rw [hd] at hx
    cases hx
  have hword : word? (sign negative ++ d :: rest) = none := by
    cases negative with
    | true => rfl
    | false =>
      simp [word?, words, text, sign, Text.dropStart?, hne 'n' (by decide), hne 't' (by decide),
        hne 'f' (by decide)]
  have hconstant : constant? (sign negative ++ d :: rest) = none := by
    cases negative with
    | true =>
      have hminus : CodePoint.ofChar 'N' ≠ CodePoint.ofChar '-' := by decide
      have hminus' : CodePoint.ofChar 'I' ≠ CodePoint.ofChar '-' := by decide
      simp [constant?, Constant.name, text, sign, Text.dropStart?, hminus, hminus',
        hne 'I' (by decide)]
    | false =>
      simp [constant?, Constant.name, text, sign, Text.dropStart?, hne 'N' (by decide),
        hne 'I' (by decide), hne '-' (by decide)]
  simp only [scalar, hword, hconstant]

/-! ### What a value begins with -/

theorem value_cons {c : CodePoint} (hquote : c.val ≠ 0x22) (harray : c ≠ CodePoint.ofChar '[')
    (hobject : c ≠ CodePoint.ofChar '\x7b') (rules : Rules) (bound depth : Nat) (rest : Text) :
    value rules bound depth (c :: rest) = scalar rules (c :: rest) := by
  rw [value.eq_def]
  simp only [hquote, harray, hobject, if_false]

theorem value_doubleQuote (rules : Rules) (bound depth : Nat) (rest : Text) :
    value rules bound depth (Text.doubleQuote :: rest) =
      (string (Text.doubleQuote :: rest) {} rest).map fun (s, behind) => (.string s, behind) := by
  rw [value.eq_def]
  rfl

theorem value_bracket (rules : Rules) (bound depth : Nat) (rest : Text) :
    value rules bound depth (CodePoint.ofChar '[' :: rest) =
      match depth with
      | 0 => .error .tooDeep
      | depth + 1 => array (value rules bound depth) bound rest := by
  rw [value.eq_def]
  rfl

theorem value_brace (rules : Rules) (bound depth : Nat) (rest : Text) :
    value rules bound depth (CodePoint.ofChar '\x7b' :: rest) =
      match depth with
      | 0 => .error .tooDeep
      | depth + 1 => object (value rules bound depth) bound rest := by
  rw [value.eq_def]
  rfl

theorem value_cases (rules : Rules) (bound depth : Nat) (t : Text) :
    value rules bound depth t = .error (.malformed .value []) ∨
      (∃ rest, t = Text.doubleQuote :: rest) ∨
      (∃ rest, t = CodePoint.ofChar '[' :: rest) ∨
      (∃ rest, t = CodePoint.ofChar '\x7b' :: rest) ∨
      value rules bound depth t = scalar rules t := by
  cases t with
  | nil =>
    left
    rw [value.eq_def]
  | cons c rest =>
    by_cases hquote : c.val = 0x22
    · exact .inr (.inl ⟨rest, by rw [show c = Text.doubleQuote from CodePoint.ext hquote]⟩)
    · by_cases hbracket : c = CodePoint.ofChar '['
      · exact .inr (.inr (.inl ⟨rest, by rw [hbracket]⟩))
      · by_cases hbrace : c = CodePoint.ofChar '\x7b'
        · exact .inr (.inr (.inr (.inl ⟨rest, by rw [hbrace]⟩)))
        · exact .inr (.inr (.inr (.inr (value_cons hquote hbracket hbrace rules bound depth rest))))

theorem array_cases (value : Text → Outcome Json) (bound : Nat) (t : Text) :
    (∃ rest, skipBlanks t = CodePoint.ofChar ']' :: rest ∧
        array value bound t = .ok (.array [], rest)) ∨
      array value bound t = items value bound [] (skipBlanks t) := by
  rw [array]
  cases skipBlanks t with
  | nil => exact .inr rfl
  | cons c rest =>
    by_cases hc : c = CodePoint.ofChar ']'
    · exact .inl ⟨rest, by rw [hc], if_pos hc⟩
    · exact .inr (if_neg hc)

theorem object_cases (value : Text → Outcome Json) (bound : Nat) (t : Text) :
    (∃ rest, skipBlanks t = CodePoint.ofChar '\x7d' :: rest ∧
        object value bound t = .ok (.object [], rest)) ∨
      object value bound t = members value bound [] (skipBlanks t) := by
  rw [object]
  cases skipBlanks t with
  | nil => exact .inr rfl
  | cons c rest =>
    by_cases hc : c = CodePoint.ofChar '\x7d'
    · exact .inl ⟨rest, by rw [hc], if_pos hc⟩
    · exact .inr (if_neg hc)

/-! ### Scalars -/

theorem exists_digit_of_isNumber {limit? : Option Nat} {w : Text} {v : Json}
    (h : IsNumber limit? w v) :
    ∃ negative d rest, d.isAsciiDigit = true ∧ w = sign negative ++ d :: rest := by
  have hwhole {w : Text} (hw : IsWhole w) :
      ∃ d rest, d.isAsciiDigit = true ∧ w = d :: rest := by
    obtain ⟨⟨hne, hdigits⟩, -⟩ := hw
    obtain ⟨d, rest, rfl⟩ := List.exists_cons_of_ne_nil hne
    exact ⟨d, rest, hdigits d List.mem_cons_self, rfl⟩
  cases h with
  | whole negative hw hlimit =>
    obtain ⟨d, rest, hd, rfl⟩ := hwhole hw
    exact ⟨negative, d, rest, hd, rfl⟩
  | fraction negative hw hds =>
    obtain ⟨d, rest, hd, rfl⟩ := hwhole hw
    exact ⟨negative, d, _, hd, rfl⟩
  | exponent negative hw hf hx =>
    obtain ⟨d, rest, hd, rfl⟩ := hwhole hw
    exact ⟨negative, d, _, hd, rfl⟩

/-- A scalar is read from the text that writes it. -/
theorem value_of_isScalar {rules : Rules} {w rest : Text} {v : Json}
    (h : IsScalar rules.maxDigits? w v) (hrest : EndsNumber rest) (bound depth : Nat) :
    value rules bound depth (w ++ rest) = .ok (v, rest) := by
  cases h with
  | null =>
    rw [value.eq_def]
    rfl
  | true =>
    rw [value.eq_def]
    rfl
  | false =>
    rw [value.eq_def]
    rfl
  | number h =>
    obtain ⟨negative, d, behind, hd, rfl⟩ := exists_digit_of_isNumber h
    rw [← number_of_isNumber h hrest, List.append_assoc, List.cons_append,
      ← scalar_sign rules negative hd]
    cases negative with
    | true => exact value_cons (by decide) (by decide) (by decide) _ _ _ _
    | false =>
      refine value_cons ?_ ?_ ?_ _ _ _ _
      · intro hquote
        simp [CodePoint.isAsciiDigit, hquote] at hd
      · intro heq
        subst heq
        exact absurd hd (by decide)
      · intro heq
        subst heq
        exact absurd hd (by decide)
  | string h =>
    obtain ⟨w, rfl⟩ := exists_cons_of_isString h
    rw [List.cons_append, value_doubleQuote, string_eq_ok_iff.2 ⟨w, h, rfl⟩]
    rfl

theorem exists_isScalar_of_scalar {rules : Rules} (hconstants : rules.constants = false)
    {t rest : Text} {v : Json} (h : scalar rules t = .ok (v, rest)) :
    ∃ w, IsScalar rules.maxDigits? w v ∧ t = w ++ rest := by
  unfold scalar at h
  split at h
  · rename_i found hword
    obtain rfl : found = (v, rest) := Except.ok.inj h
    exact isScalar_of_word? hword
  · split at h
    · rw [hconstants] at h
      cases h
    · obtain ⟨w, hw, ht⟩ := exists_isNumber_of_number h
      exact ⟨w, .number hw, ht⟩

end Reader

end Json

end CompletionWire
