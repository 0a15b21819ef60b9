import CompletionWire.Proofs.Json.Completeness
import CompletionWire.Proofs.Json.Soundness

/-!
# How deep a text nests

The levels of a text are counted without reading it: brackets and braces open and close them, except
in strings. What the reader has taken never leaves a level open, so at the place where it gives up
for depth, the brackets in front of it are open in the count as well.
-/

namespace CompletionWire

namespace Json

open Grammar

/-- Where a place in a text lies, as far as its marks go. -/
inductive Zone
  | outside
  | inString
  | behindBackslash

def Zone.inString.next (c : CodePoint) : Zone :=
  if c = Text.doubleQuote then .outside
  else if c = Text.backslash then .behindBackslash
  else .inString

/-- The most levels that are open at once from a place on at which `level` are open. -/
def deepest : Zone → (level : Nat) → Text → Nat
  | _, level, [] => level
  | .behindBackslash, level, _ :: rest => deepest .inString level rest
  | .inString, level, c :: rest => deepest (Zone.inString.next c) level rest
  | .outside, level, c :: rest =>
    if c = Text.doubleQuote then deepest .inString level rest
    else if c = CodePoint.ofChar '[' ∨ c = CodePoint.ofChar '\x7b' then
      deepest .outside (level + 1) rest
    else if c = CodePoint.ofChar ']' ∨ c = CodePoint.ofChar '\x7d' then
      max level (deepest .outside (level - 1) rest)
    else deepest .outside level rest

/-- How many arrays and objects are open at once in a text, at most. -/
def nesting (t : Text) : Nat := deepest .outside 0 t

theorem level_le_deepest (zone : Zone) (level : Nat) (t : Text) : level ≤ deepest zone level t := by
  induction t generalizing zone level with
  | nil => rw [deepest]
  | cons c rest ih =>
    cases zone with
    | outside =>
      rw [deepest]
      split_ifs
      · exact ih _ _
      · exact Nat.le_of_succ_le (ih _ _)
      · exact Nat.le_max_left _ _
      · exact ih _ _
    | inString => exact ih _ _
    | behindBackslash => exact ih _ _

example : nesting (text "[[],[[]]]") = 3 := by decide

/-! ### Parts without levels -/

def IsFlat (c : CodePoint) : Prop := c.val ∉ [0x22, 0x5B, 0x5D, 0x7B, 0x7D]

instance (c : CodePoint) : Decidable (IsFlat c) := inferInstanceAs (Decidable (¬_))

theorem isFlat_of_lt {c : CodePoint} (hc : c.val < 0x5B) (hne : c.val ≠ 0x22) : IsFlat c := by
  simp only [IsFlat, List.mem_cons, List.not_mem_nil, or_false]
  omega

theorem deepest_cons {c : CodePoint} (hc : IsFlat c) (level : Nat) (rest : Text) :
    deepest .outside level (c :: rest) = deepest .outside level rest := by
  have hne {d : CodePoint} (hd : ¬IsFlat d) : c ≠ d := by
    intro heq
    subst heq
    exact hd hc
  rw [deepest, if_neg (hne (by decide)), if_neg, if_neg]
  · intro hx
    rcases hx with h | h <;> exact absurd h (hne (by decide))
  · intro hx
    rcases hx with h | h <;> exact absurd h (hne (by decide))

theorem deepest_append {w : Text} (hw : ∀ c ∈ w, IsFlat c) (level : Nat) (rest : Text) :
    deepest .outside level (w ++ rest) = deepest .outside level rest := by
  induction w with
  | nil => rfl
  | cons c w ih =>
    rw [List.cons_append, deepest_cons (hw c List.mem_cons_self)]
    exact ih fun d hd => hw d (List.mem_cons_of_mem c hd)

theorem isFlat_of_isBlanks {b : Text} (hb : IsBlanks b) : ∀ c ∈ b, IsFlat c := by
  intro c hc
  have hblank := hb c hc
  rw [mem_blanks_iff] at hblank
  exact isFlat_of_lt (by omega) (by omega)

theorem isFlat_of_isNumber {limit? : Option Nat} {w : Text} {v : Json} (h : IsNumber limit? w v) :
    ∀ c ∈ w, IsFlat c := by
  refine forall_mem_of_isNumber h (fun c hdigit => ?_) (by decide)
  rw [isAsciiDigit_iff] at hdigit
  exact isFlat_of_lt (by omega) (by omega)

/-! ### Strings -/

/-- What is told of a text by its marks does not depend on what stands in its strings. -/
structure IgnoresStrings {α : Type} (f : Zone → Text → α) : Prop where
  opening (rest : Text) : f .outside (Text.doubleQuote :: rest) = f .inString rest
  inString (c : CodePoint) (rest : Text) :
    f .inString (c :: rest) = f (Zone.inString.next c) rest
  escaped (c : CodePoint) (rest : Text) : f .behindBackslash (c :: rest) = f .inString rest

namespace IgnoresStrings

variable {α : Type} {f : Zone → Text → α} (hf : IgnoresStrings f)

include hf

theorem literal {c : CodePoint} (hquote : c ≠ Text.doubleQuote) (hbackslash : c ≠ Text.backslash)
    (rest : Text) : f .inString (c :: rest) = f .inString rest := by
  rw [hf.inString, Zone.inString.next, if_neg hquote, if_neg hbackslash]

theorem hexadecimal {c : CodePoint} {n : Nat} (hc : c.hexValue? = some n) (rest : Text) :
    f .inString (c :: rest) = f .inString rest := by
  apply hf.literal
  · intro heq
    subst heq
    cases hc
  · intro heq
    subst heq
    cases hc

theorem unit {w : Text} {c : CodePoint} {numbered : Bool} (h : IsUnit w c numbered)
    (rest : Text) : f .inString (w ++ rest) = f .inString rest := by
  have hbackslash (c : CodePoint) (rest : Text) :
      f .inString (Text.backslash :: c :: rest) = f .inString rest :=
    (hf.inString _ _).trans (hf.escaped c rest)
  cases h with
  | literal hc hquote hbackslash => exact hf.literal hquote hbackslash rest
  | short h => exact hbackslash _ rest
  | numbered ha hb hc hd =>
    simp only [List.cons_append, List.nil_append]
    rw [hbackslash, hf.hexadecimal ha, hf.hexadecimal hb, hf.hexadecimal hc, hf.hexadecimal hd]

theorem string {t s : Text} (h : IsString t s) (rest : Text) :
    f .outside (t ++ rest) = f .outside rest := by
  obtain ⟨w, us, hunits, rfl, -⟩ := h
  rw [List.cons_append, hf.opening, List.append_assoc, List.singleton_append]
  induction hunits with
  | nil => exact hf.inString _ _
  | cons hunit hrest ih => rw [List.append_assoc, hf.unit hunit, ih]

end IgnoresStrings

theorem deepest_isString {t s : Text} (h : IsString t s) (level : Nat) (rest : Text) :
    deepest .outside level (t ++ rest) = deepest .outside level rest := by
  have hignores : IgnoresStrings fun zone t => deepest zone level t :=
    ⟨fun _ => if_pos rfl, fun _ _ => rfl, fun _ _ => rfl⟩
  exact hignores.string h rest

/-! ### Values -/

theorem deepest_open (level : Nat) {c : CodePoint}
    (hc : c = CodePoint.ofChar '[' ∨ c = CodePoint.ofChar '\x7b') (rest : Text) :
    deepest .outside level (c :: rest) = deepest .outside (level + 1) rest := by
  rcases hc with rfl | rfl <;> rfl

theorem deepest_le_close (level : Nat) {c : CodePoint}
    (hc : c = CodePoint.ofChar ']' ∨ c = CodePoint.ofChar '\x7d') (rest : Text) :
    deepest .outside level rest ≤ deepest .outside (level + 1) (c :: rest) := by
  have hclose : deepest .outside (level + 1) (c :: rest) =
      max (level + 1) (deepest .outside level rest) := by
    rcases hc with rfl | rfl <;> rfl
  rw [hclose]
  exact Nat.le_max_right _ _

theorem deepest_isScalar {limit? : Option Nat} {t : Text} {v : Json} (h : IsScalar limit? t v)
    (level : Nat) (rest : Text) :
    deepest .outside level (t ++ rest) = deepest .outside level rest := by
  cases h with
  | null => rfl
  | true => rfl
  | false => rfl
  | number h => exact deepest_append (isFlat_of_isNumber h) level rest
  | string h => exact deepest_isString h level rest

/-- What is derived closes every level that it opens. -/
theorem deepest_le_of_derives {limit? : Option Nat} {p : Phrase} {w : Text}
    (h : Derives limit? p w) (level : Nat) (rest : Text) :
    deepest .outside level rest ≤ deepest .outside level (w ++ rest) := by
  have hflat {b : Text} (hb : IsBlanks b) (level : Nat) (rest : Text) :
      deepest .outside level (b ++ rest) = deepest .outside level rest :=
    deepest_append (isFlat_of_isBlanks hb) level rest
  induction h generalizing level rest with
  | scalar h => rw [deepest_isScalar h]
  | emptyArray hb =>
    rw [List.cons_append, deepest_open level (.inl rfl), List.append_assoc, hflat hb]
    exact deepest_le_close level (.inl rfl) rest
  | array h ih =>
    rw [List.cons_append, deepest_open level (.inl rfl), List.append_assoc]
    exact (deepest_le_close level (.inl rfl) rest).trans (ih (level + 1) _)
  | emptyObject hb =>
    rw [List.cons_append, deepest_open level (.inr rfl), List.append_assoc, hflat hb]
    exact deepest_le_close level (.inr rfl) rest
  | object h ih =>
    rw [List.cons_append, deepest_open level (.inr rfl), List.append_assoc]
    exact (deepest_le_close level (.inr rfl) rest).trans (ih (level + 1) _)
  | element hbefore h hbehind ih =>
    rw [List.append_assoc, hflat hbefore, List.append_assoc, ← hflat hbehind level rest]
    exact ih level _
  | lastItem h ih => exact ih level rest
  | item h hrest ih ihrest =>
    rw [List.append_assoc, List.cons_append]
    refine (ihrest level rest).trans ?_
    rw [← deepest_cons (c := CodePoint.ofChar ',') (by decide)]
    exact ih level _
  | lastMember hbefore hk hbehind h ih =>
    simp only [List.append_assoc, List.cons_append]
    rw [hflat hbefore, deepest_isString hk, hflat hbehind, deepest_cons (by decide)]
    exact ih level rest
  | member hbefore hk hbehind h hrest ih ihrest =>
    simp only [List.append_assoc, List.cons_append]
    rw [hflat hbefore, deepest_isString hk, hflat hbehind, deepest_cons (by decide)]
    refine (ihrest level rest).trans ?_
    rw [← deepest_cons (c := CodePoint.ofChar ',') (by decide)]
    exact ih level _

/-! ### Where the reader gives up -/

namespace Reader

theorem string_ne_tooDeep (start : Text) (p : Piece) (t : Text) :
    string start p t ≠ .error .tooDeep := by
  intro h
  fun_induction string start p t with
  | case4 p c hquote hbackslash h₁ h₂ h₃ h₄ next later x hx ih => exact ih h
  | case7 p c hquote hbackslash e behind hu x hx ih => exact ih h
  | case10 p c behind hquote hbackslash hlow ih => exact ih h
  | case1 | case2 | case3 | case5 | case6 | case8 | case9 => cases h

theorem unsignedNumber_ne_tooDeep (rules : Rules) (start : Text) (negative : Bool) (t : Text) :
    unsignedNumber rules start negative t ≠ .error .tooDeep := by
  intro h
  unfold unsignedNumber at h
  split at h
  · cases h
  · rename_i w afterWhole hwhole
    rcases (fractionPart? afterWhole).getD ([], afterWhole) with ⟨fraction, afterFraction⟩
    simp only [wholeNumber] at h
    split at h
    · cases h
    · split at h
      · cases h
      · split at h <;> cases h

theorem scalar_ne_tooDeep (rules : Rules) (t : Text) : scalar rules t ≠ .error .tooDeep := by
  intro h
  unfold scalar at h
  split at h
  · cases h
  · split at h
    · split at h <;> cases h
    · unfold number at h
      split at h
      · split at h <;> exact unsignedNumber_ne_tooDeep _ _ _ _ h
      · cases h

theorem key_ne_tooDeep (t : Text) : key t ≠ .error .tooDeep := by
  intro h
  unfold key at h
  split at h
  · cases h
  · split at h
    · split at h
      · rename_i c rest _ fault hstring
        rw [Except.error.inj h] at hstring
        exact string_ne_tooDeep _ _ _ hstring
      · split at h
        · cases h
        · split at h <;> cases h
    · cases h

/-- A way to read values that gives up only where `depth` more levels are open. -/
def GivesUpBelow (depth : Nat) (value : Text → Outcome Json) : Prop :=
  ∀ t level, value t = .error .tooDeep → level + depth < deepest .outside level t

theorem deepest_skipBlanks (level : Nat) (t : Text) :
    deepest .outside level (skipBlanks t) ≤ deepest .outside level t := by
  obtain ⟨b, hb, ht⟩ := exists_isBlanks_skipBlanks t
  rw [ht, skipBlanks_append hb, deepest_append (isFlat_of_isBlanks hb), ← skipBlanks_append hb,
    ← ht]

variable {limit? : Option Nat} {value : Text → Outcome Json} {depth : Nat}

theorem lt_deepest_of_items (hsound : Sound limit? value) (hdeep : GivesUpBelow depth value)
    {bound : Nat} {done : List Json} {t : Text}
    (h : items value bound done t = .error .tooDeep) (level : Nat) :
    level + depth < deepest .outside level t := by
  fun_induction items value bound done t with
  | case2 bound done t fault hread =>
    rw [Except.error.inj h] at hread
    exact hdeep t level hread
  | case5 bound done t u behind hread later hskip hclose ih =>
    obtain ⟨w, hw, rfl⟩ := hsound.element hread
    refine (ih h).trans_le ((deepest_skipBlanks level later).trans ?_)
    rw [hskip, ← deepest_cons (c := CodePoint.ofChar ',') (by decide)]
    exact deepest_le_of_derives hw level _
  | case1 | case3 | case4 | case6 => cases h

theorem lt_deepest_of_members (hsound : Sound limit? value) (hdeep : GivesUpBelow depth value)
    {bound : Nat} {done : Members} {t : Text}
    (h : members value bound done t = .error .tooDeep) (level : Nat) :
    level + depth < deepest .outside level t := by
  have hkeyLevels {t k atValue : Text} (hkey : key t = .ok (k, atValue)) :
      deepest .outside level t = deepest .outside level atValue := by
    obtain ⟨kw, before, behind, hk, hbefore, hbehind, rfl⟩ := exists_key hkey
    rw [deepest_isString hk, deepest_append (isFlat_of_isBlanks hbefore),
      deepest_cons (by decide), deepest_append (isFlat_of_isBlanks hbehind)]
  fun_induction members value bound done t with
  | case2 bound done t fault hkey =>
    rw [Except.error.inj h] at hkey
    exact absurd hkey (key_ne_tooDeep t)
  | case3 bound done t k atValue hkey fault hread =>
    rw [Except.error.inj h] at hread
    rw [hkeyLevels hkey]
    exact hdeep atValue level hread
  | case6 bound done t k atValue hkey u behind hread later hskip hclose ih =>
    rw [hkeyLevels hkey]
    obtain ⟨w, hw, rfl⟩ := hsound.element hread
    refine (ih h).trans_le ((deepest_skipBlanks level later).trans ?_)
    rw [hskip, ← deepest_cons (c := CodePoint.ofChar ',') (by decide)]
    exact deepest_le_of_derives hw level _
  | case1 | case4 | case5 | case7 => cases h

theorem lt_deepest_of_array (hsound : Sound limit? value) (hdeep : GivesUpBelow depth value)
    {bound : Nat} {t : Text} (h : array value bound t = .error .tooDeep) (level : Nat) :
    level + depth < deepest .outside level t := by
  rcases array_cases value bound t with ⟨_, -, harray⟩ | harray
  · cases harray.symm.trans h
  · have hitems := lt_deepest_of_items hsound hdeep (harray.symm.trans h) level
    exact hitems.trans_le (deepest_skipBlanks level t)

theorem lt_deepest_of_object (hsound : Sound limit? value) (hdeep : GivesUpBelow depth value)
    {bound : Nat} {t : Text} (h : object value bound t = .error .tooDeep) (level : Nat) :
    level + depth < deepest .outside level t := by
  rcases object_cases value bound t with ⟨_, -, hobject⟩ | hobject
  · cases hobject.symm.trans h
  · have hmembers := lt_deepest_of_members hsound hdeep (hobject.symm.trans h) level
    exact hmembers.trans_le (deepest_skipBlanks level t)

theorem givesUpBelow_of_nested {rules : Rules} (hconstants : rules.constants = false)
    {bound depth : Nat}
    (hnested : ∀ d, depth = d + 1 → GivesUpBelow d (Reader.value rules bound d)) :
    GivesUpBelow depth (Reader.value rules bound depth) := by
  intro t level h
  rcases value_cases rules bound depth t with hvalue | ⟨t, rfl⟩ | ⟨t, rfl⟩ | ⟨t, rfl⟩ |
    hvalue
  · rw [hvalue] at h
    cases h
  · rw [value_doubleQuote] at h
    cases hstring : string (Text.doubleQuote :: t) {} t with
    | error fault =>
      rw [hstring] at h
      rw [Except.error.inj h] at hstring
      exact absurd hstring (string_ne_tooDeep _ _ _)
    | ok found =>
      rw [hstring] at h
      cases h
  · rw [value_bracket] at h
    rw [deepest_open level (.inl rfl)]
    cases depth with
    | zero => exact level_le_deepest _ _ _
    | succ d =>
      -- the bracket moves one level from what may be held to what is open
      have := lt_deepest_of_array (sound_value hconstants bound d) (hnested d rfl) h (level + 1)
      omega
  · rw [value_brace] at h
    rw [deepest_open level (.inr rfl)]
    cases depth with
    | zero => exact level_le_deepest _ _ _
    | succ d =>
      have := lt_deepest_of_object (sound_value hconstants bound d) (hnested d rfl) h (level + 1)
      omega
  · rw [hvalue] at h
    exact absurd h (scalar_ne_tooDeep rules t)

/-- The reader gives up only where more levels are open than it may hold. -/
theorem givesUpBelow_value {rules : Rules} (hconstants : rules.constants = false)
    (bound depth : Nat) : GivesUpBelow depth (Reader.value rules bound depth) := by
  induction depth with
  | zero => exact givesUpBelow_of_nested hconstants fun _ h => (nomatch h)
  | succ depth ih => exact givesUpBelow_of_nested hconstants fun _ h => Nat.succ.inj h ▸ ih

theorem lt_nesting_of_document {rules : Rules} (hconstants : rules.constants = false) {t : Text}
    (h : document rules t = .error .tooDeep) : rules.maxDepth < nesting t := by
  unfold document at h
  split_ifs at h with hmark
  · cases h
  split at h
  · rename_i fault hvalue
    rw [Except.error.inj h] at hvalue
    have hlevels := givesUpBelow_value hconstants _ _ _ 0 hvalue
    rw [Nat.zero_add] at hlevels
    exact hlevels.trans_le (deepest_skipBlanks 0 t)
  · split at h <;> cases h

/-! ### Documents -/

/-- Within the depth that the reader may hold, it returns exactly the values of documents. -/
theorem document_eq_ok_iff {rules : Rules} (hconstants : rules.constants = false) {t : Text}
    (hdepth : document rules t ≠ .error .tooDeep) (v : Json) :
    document rules t = .ok v ↔ IsDocument rules.maxDigits? t v :=
  ⟨isDocument_of_document hconstants, fun h => (document_of_isDocument h).resolve_right hdepth⟩

end Reader

namespace Grammar

/-- The grammar is unambiguous: a document writes one value. -/
theorem IsDocument.unique {limit? : Option Nat} {t : Text} {v w : Json}
    (hv : IsDocument limit? t v) (hw : IsDocument limit? t w) : v = w := by
  let rules : Rules := ⟨limit?, nesting t, false⟩
  have hdepth : Reader.document rules t ≠ .error .tooDeep :=
    fun h => Nat.lt_irrefl _ (Reader.lt_nesting_of_document rfl h)
  have hread := (Reader.document_eq_ok_iff rfl hdepth v).2 hv
  rw [(Reader.document_eq_ok_iff rfl hdepth w).2 hw] at hread
  exact (Except.ok.inj hread).symm

end Grammar

end Json

end CompletionWire
