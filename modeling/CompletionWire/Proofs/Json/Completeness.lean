import CompletionWire.Proofs.Json.Scalars

/-!
# What is in the grammar is read

Whatever the grammar derives is read with the value it derives, unless it nests too deep. The
induction is on the derivation. For each kind of phrase it says what the reader does at the first
place where it looks at that phrase, with everything behind it still to come; a text shorter than
the bound has fewer items than the bound allows.
-/

namespace CompletionWire

namespace Json

namespace Reader

open Grammar

/-- The outcome is the value, with the text behind it, unless that nests too deep. -/
def Yields (o : Outcome Json) (v : Json) (rest : Text) : Prop :=
  o = .ok (v, rest) ∨ o = .error .tooDeep

/-- The text does not continue a value: blanks, a comma or a closing bracket may follow one. -/
def EndsValue (rest : Text) : Prop :=
  ∀ c, rest.head? = some c → c.val ∈ blanks ∨ c = CodePoint.ofChar ',' ∨
    c = CodePoint.ofChar ']' ∨ c = CodePoint.ofChar '\x7d'

theorem EndsValue.number {rest : Text} (h : EndsValue rest) : EndsNumber rest := by
  intro c hc
  rcases h c hc with hblank | rfl | rfl | rfl
  · have hval : c.val ≤ 0x20 := by
      rw [mem_blanks_iff] at hblank
      omega
    refine ⟨?_, ?_, ?_⟩
    · rw [← Bool.not_eq_true, isAsciiDigit_iff]
      omega
    · intro heq
      subst heq
      exact absurd hval (by decide)
    · intro hx
      rcases hx with rfl | rfl <;> exact absurd hval (by decide)
  · decide
  · decide
  · decide

theorem endsValue_cons {c : CodePoint}
    (hc : c = CodePoint.ofChar ',' ∨ c = CodePoint.ofChar ']' ∨ c = CodePoint.ofChar '\x7d')
    (rest : Text) : EndsValue (c :: rest) := by
  intro d hd
  rw [← Option.some.inj hd]
  exact .inr hc

theorem endsValue_append {b rest : Text} (hb : IsBlanks b) (h : EndsValue rest) :
    EndsValue (b ++ rest) := by
  cases b with
  | nil => exact h
  | cons c b =>
    intro d hd
    rw [← Option.some.inj hd]
    exact .inl (hb c List.mem_cons_self)

/-! ### Steps of the reader -/

section

variable {value : Text → Outcome Json} {t b rest : Text} {u v : Json}

theorem yields_items_last (hb : IsBlanks b)
    (h : Yields (value t) u (b ++ CodePoint.ofChar ']' :: rest)) (n : Nat) (done : List Json) :
    Yields (items value (n + 1) done t) (.array (done.reverse ++ [u])) rest := by
  have hskip : skipBlanks (b ++ CodePoint.ofChar ']' :: rest) = CodePoint.ofChar ']' :: rest := by
    rw [skipBlanks_append hb, skipBlanks_cons (by decide)]
  rcases h with h | h
  · left
    simp only [items, h, hskip, if_true, List.reverse_cons]
  · right
    simp only [items, h]

theorem yields_items_next {n : Nat} {done : List Json} {later : Text} (hb : IsBlanks b)
    (h : Yields (value t) u (b ++ CodePoint.ofChar ',' :: later))
    (hrest : Yields (items value n (u :: done) (skipBlanks later)) v rest) :
    Yields (items value (n + 1) done t) v rest := by
  have hskip : skipBlanks (b ++ CodePoint.ofChar ',' :: later) = CodePoint.ofChar ',' :: later := by
    rw [skipBlanks_append hb, skipBlanks_cons (by decide)]
  have hcomma : CodePoint.ofChar ',' ≠ CodePoint.ofChar ']' := by decide
  rcases h with h | h
  · simpa only [items, h, hskip, hcomma, if_true, if_false] using hrest
  · right
    simp only [items, h]

theorem skipBlanks_isString {k name : Text} (hb : IsBlanks b) (hk : IsString k name)
    (rest : Text) : skipBlanks (b ++ (k ++ rest)) = k ++ rest := by
  obtain ⟨w, rfl⟩ := exists_cons_of_isString hk
  rw [skipBlanks_append hb, List.cons_append, skipBlanks_cons (by decide)]

theorem key_append {k name : Text} (hk : IsString k name) (hb : IsBlanks b) (rest : Text) :
    key (k ++ (b ++ CodePoint.ofChar ':' :: rest)) = .ok (name, skipBlanks rest) := by
  obtain ⟨w, rfl⟩ := exists_cons_of_isString hk
  have hskip : skipBlanks (b ++ CodePoint.ofChar ':' :: rest) = CodePoint.ofChar ':' :: rest := by
    rw [skipBlanks_append hb, skipBlanks_cons (by decide)]
  have hread (start later : Text) : string start {} (w ++ later) = .ok (name, later) :=
    string_eq_ok_iff.2 ⟨w, hk, rfl⟩
  rw [List.cons_append]
  simp only [key, show Text.doubleQuote.val = 0x22 from rfl, if_true, hread, hskip]

theorem yields_members_last {k : Text} {atValue : Text} (hkey : key t = .ok (k, atValue))
    (hb : IsBlanks b) (h : Yields (value atValue) u (b ++ CodePoint.ofChar '\x7d' :: rest))
    (n : Nat) (done : Members) :
    Yields (members value (n + 1) done t) (.object (done.put k u)) rest := by
  have hskip : skipBlanks (b ++ CodePoint.ofChar '\x7d' :: rest) =
      CodePoint.ofChar '\x7d' :: rest := by
    rw [skipBlanks_append hb, skipBlanks_cons (by decide)]
  rcases h with h | h
  · left
    simp only [members, hkey, h, hskip, if_true]
  · right
    simp only [members, hkey, h]

theorem yields_members_next {k : Text} {atValue later : Text} {n : Nat} {done : Members}
    (hkey : key t = .ok (k, atValue)) (hb : IsBlanks b)
    (h : Yields (value atValue) u (b ++ CodePoint.ofChar ',' :: later))
    (hrest : Yields (members value n (done.put k u) (skipBlanks later)) v rest) :
    Yields (members value (n + 1) done t) v rest := by
  have hskip : skipBlanks (b ++ CodePoint.ofChar ',' :: later) = CodePoint.ofChar ',' :: later := by
    rw [skipBlanks_append hb, skipBlanks_cons (by decide)]
  have hcomma : CodePoint.ofChar ',' ≠ CodePoint.ofChar '\x7d' := by decide
  rcases h with h | h
  · simpa only [members, hkey, h, hskip, hcomma, if_true, if_false] using hrest
  · right
    simp only [members, hkey, h]

theorem yields_array {bound : Nat}
    (hvalue : ∀ t, value (CodePoint.ofChar ']' :: t) =
      .error (.malformed .value (CodePoint.ofChar ']' :: t)))
    (h : Yields (items value bound [] (skipBlanks t)) v rest) :
    Yields (array value bound t) v rest := by
  rcases array_cases value bound t with ⟨behind, hskip, -⟩ | harray
  · rw [hskip] at h
    cases bound with
    | zero => rcases h with h | h <;> cases h
    | succ n =>
      simp only [items, hvalue] at h
      rcases h with h | h <;> cases h
  · rwa [harray]

theorem yields_object {bound : Nat} (h : Yields (members value bound [] (skipBlanks t)) v rest) :
    Yields (object value bound t) v rest := by
  rcases object_cases value bound t with ⟨behind, hskip, -⟩ | hobject
  · have hkey (t : Text) : key (CodePoint.ofChar '\x7d' :: t) =
        .error (.malformed .propertyName (CodePoint.ofChar '\x7d' :: t)) := rfl
    rw [hskip] at h
    cases bound with
    | zero => rcases h with h | h <;> cases h
    | succ n =>
      simp only [members, hkey] at h
      rcases h with h | h <;> cases h
  · rwa [hobject]

end

/-- No value begins with a closing bracket or a byte order mark. -/
theorem value_of_not_start (rules : Rules) (bound depth : Nat) {c : CodePoint}
    (hc : c = CodePoint.ofChar ']' ∨ c = CodePoint.ofNat 0xFEFF) (t : Text) :
    value rules bound depth (c :: t) = .error (.malformed .value (c :: t)) := by
  rcases hc with rfl | rfl
  · rw [value_cons (by decide) (by decide) (by decide)]
    rfl
  · rw [value_cons (by decide) (by decide) (by decide)]
    rfl

theorem exists_cons_of_value {limit? : Option Nat} {w : Text} {v : Json}
    (h : Derives limit? (.value v) w) : ∃ c behind, isJsonBlank c = false ∧ w = c :: behind := by
  cases h with
  | scalar h =>
    cases h with
    | null => exact ⟨_, _, by decide, rfl⟩
    | true => exact ⟨_, _, by decide, rfl⟩
    | false => exact ⟨_, _, by decide, rfl⟩
    | number h =>
      obtain ⟨negative, d, behind, hd, rfl⟩ := exists_digit_of_isNumber h
      cases negative with
      | true => exact ⟨_, _, by decide, rfl⟩
      | false =>
        refine ⟨d, behind, ?_, rfl⟩
        rw [isAsciiDigit_iff] at hd
        simp only [isJsonBlank, Bool.or_eq_false_iff, decide_eq_false_iff_not]
        omega
    | string h =>
      obtain ⟨w, rfl⟩ := exists_cons_of_isString h
      exact ⟨_, w, by decide, rfl⟩
  | emptyArray hb => exact ⟨_, _, by decide, rfl⟩
  | array h => exact ⟨_, _, by decide, rfl⟩
  | emptyObject hb => exact ⟨_, _, by decide, rfl⟩
  | object h => exact ⟨_, _, by decide, rfl⟩

/-! ### Phrases -/

/-- What the reader does with a phrase that stands where it looks for one. -/
def Accepts (rules : Rules) (bound : Nat) : Phrase → Text → Prop
  | .value v, w => ∀ depth rest, w.length < bound → EndsValue rest →
    Yields (value rules bound depth (w ++ rest)) v rest
  | .element v, w => ∀ depth rest, w.length < bound → EndsValue rest →
    ∃ b, IsBlanks b ∧ Yields (value rules bound depth (skipBlanks (w ++ rest))) v (b ++ rest)
  | .items vs, w => ∀ depth n done rest, w.length < bound → w.length < n →
    Yields (items (value rules bound depth) n done
      (skipBlanks (w ++ CodePoint.ofChar ']' :: rest))) (.array (done.reverse ++ vs)) rest
  | .members ms, w => ∀ depth n done rest, w.length < bound → w.length < n →
    Yields (members (value rules bound depth) n done
      (skipBlanks (w ++ CodePoint.ofChar '\x7d' :: rest))) (.object (collect done ms)) rest

theorem accepts_of_derives {rules : Rules} {p : Phrase} {w : Text}
    (h : Derives rules.maxDigits? p w) (bound : Nat) : Accepts rules bound p w := by
  induction h with
  | scalar h =>
    intro depth rest _ hrest
    exact .inl (value_of_isScalar h hrest.number bound depth)
  | emptyArray hb =>
    intro depth rest _ _
    rw [List.cons_append, value_bracket]
    cases depth with
    | zero => exact .inr rfl
    | succ depth =>
      have hskip : skipBlanks (CodePoint.ofChar ']' :: rest) = CodePoint.ofChar ']' :: rest :=
        skipBlanks_cons (by decide) rest
      left
      rw [List.append_assoc, List.singleton_append]
      simp only [array, skipBlanks_append hb, hskip, if_true]
  | array h ih =>
    intro depth rest hlength _
    simp only [List.length_cons, List.length_append] at hlength
    rw [List.cons_append, value_bracket]
    cases depth with
    | zero => exact .inr rfl
    | succ depth =>
      rw [List.append_assoc, List.singleton_append]
      refine yields_array (fun t => value_of_not_start rules bound depth (.inl rfl) t) ?_
      exact ih depth bound [] rest (by omega) (by omega)
  | emptyObject hb =>
    intro depth rest _ _
    rw [List.cons_append, value_brace]
    cases depth with
    | zero => exact .inr rfl
    | succ depth =>
      have hskip : skipBlanks (CodePoint.ofChar '\x7d' :: rest) = CodePoint.ofChar '\x7d' :: rest :=
        skipBlanks_cons (by decide) rest
      left
      rw [List.append_assoc, List.singleton_append]
      simp only [object, skipBlanks_append hb, hskip, if_true]
  | object h ih =>
    intro depth rest hlength _
    simp only [List.length_cons, List.length_append] at hlength
    rw [List.cons_append, value_brace]
    cases depth with
    | zero => exact .inr rfl
    | succ depth =>
      rw [List.append_assoc, List.singleton_append]
      exact yields_object (ih depth bound [] rest (by omega) (by omega))
  | @element before w behind v hbefore h hbehind ih =>
    intro depth rest hlength hrest
    obtain ⟨c, later, hc, rfl⟩ := exists_cons_of_value h
    refine ⟨behind, hbehind, ?_⟩
    rw [List.append_assoc, skipBlanks_append hbefore, List.cons_append, List.cons_append,
      skipBlanks_cons hc, List.append_assoc, ← List.cons_append]
    refine ih depth (behind ++ rest) ?_ (endsValue_append hbehind hrest)
    simp only [List.length_append] at hlength
    omega
  | lastItem h ih =>
    intro depth n done rest hlength hn
    obtain ⟨n, rfl⟩ := Nat.exists_eq_succ_of_ne_zero (Nat.ne_zero_of_lt hn)
    obtain ⟨b, hb, hyields⟩ := ih depth (CodePoint.ofChar ']' :: rest) hlength
      (endsValue_cons (.inr (.inl rfl)) rest)
    exact yields_items_last hb hyields n done
  | @item w ws u vs h hrest ih ihrest =>
    intro depth n done rest hlength hn
    obtain ⟨n, rfl⟩ := Nat.exists_eq_succ_of_ne_zero (Nat.ne_zero_of_lt hn)
    simp only [List.length_append, List.length_cons] at hlength hn
    obtain ⟨b, hb, hyields⟩ := ih depth
      (CodePoint.ofChar ',' :: (ws ++ CodePoint.ofChar ']' :: rest)) (by omega)
      (endsValue_cons (.inl rfl) _)
    rw [List.append_assoc, List.cons_append]
    refine yields_items_next hb hyields ?_
    have hlater := ihrest depth n (u :: done) rest (by omega) (by omega)
    rwa [List.reverse_cons, List.append_assoc, List.singleton_append] at hlater
  | @lastMember before k behind w name u hbefore hk hbehind h ih =>
    intro depth n done rest hlength hn
    obtain ⟨n, rfl⟩ := Nat.exists_eq_succ_of_ne_zero (Nat.ne_zero_of_lt hn)
    simp only [List.length_append, List.length_cons] at hlength
    obtain ⟨b, hb, hyields⟩ := ih depth (CodePoint.ofChar '\x7d' :: rest) (by omega)
      (endsValue_cons (.inr (.inr rfl)) rest)
    have hkey := key_append hk hbehind (w ++ CodePoint.ofChar '\x7d' :: rest)
    simp only [List.append_assoc, List.cons_append, skipBlanks_isString hbefore hk]
    exact yields_members_last hkey hb hyields n done
  | @member before k behind w ws name u ms hbefore hk hbehind h hrest ih ihrest =>
    intro depth n done rest hlength hn
    obtain ⟨n, rfl⟩ := Nat.exists_eq_succ_of_ne_zero (Nat.ne_zero_of_lt hn)
    simp only [List.length_append, List.length_cons] at hlength hn
    obtain ⟨b, hb, hyields⟩ := ih depth
      (CodePoint.ofChar ',' :: (ws ++ CodePoint.ofChar '\x7d' :: rest)) (by omega)
      (endsValue_cons (.inl rfl) _)
    have hkey := key_append hk hbehind
      (w ++ CodePoint.ofChar ',' :: (ws ++ CodePoint.ofChar '\x7d' :: rest))
    simp only [List.append_assoc, List.cons_append, skipBlanks_isString hbefore hk]
    exact yields_members_next hkey hb hyields
      (ihrest depth n (done.put name u) rest (by omega) (by omega))

/-- A document is read as the value that it writes, unless it nests too deep. -/
theorem document_of_isDocument {rules : Rules} {t : Text} {v : Json}
    (h : IsDocument rules.maxDigits? t v) :
    document rules t = .ok v ∨ document rules t = .error .tooDeep := by
  obtain ⟨b, hb, hyields⟩ := accepts_of_derives h (t.length + 1) rules.maxDepth [] (by omega)
    (fun c hc => (nomatch hc))
  rw [List.append_nil, List.append_nil] at hyields
  have hmark : t.head? ≠ some (CodePoint.ofNat 0xFEFF) := by
    intro hmark
    obtain ⟨rest, rfl⟩ := List.head?_eq_some_iff.1 hmark
    rw [skipBlanks_cons (by decide), value_of_not_start _ _ _ (.inr rfl)] at hyields
    rcases hyields with h | h <;> cases h
  have hrest : skipBlanks b = [] := by
    rw [← List.append_nil b, skipBlanks_append hb]
    rfl
  rcases hyields with h | h
  · left
    simp only [document, hmark, if_false, h, hrest]
  · right
    simp only [document, hmark, if_false, h]

end Reader

end Json

end CompletionWire
