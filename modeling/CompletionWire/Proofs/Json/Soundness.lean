import CompletionWire.Proofs.Json.Scalars

/-!
# What is read is in the grammar

Whatever the reader returns, the text it took is derived in the grammar with the value it returned,
at any bound and any depth. Arrays and objects are taken for an arbitrary way to read the values in
them, so that one induction on the depth ties the knot.
-/

namespace CompletionWire

namespace Json

namespace Reader

open Grammar

/-- A way to read values that accepts texts of the grammar only. -/
def Sound (limit? : Option Nat) (value : Text → Outcome Json) : Prop :=
  ∀ t v rest, value t = .ok (v, rest) → ∃ w, Derives limit? (.value v) w ∧ t = w ++ rest

variable {limit? : Option Nat} {value : Text → Outcome Json}

theorem Sound.element (hvalue : Sound limit? value) {t rest : Text} {v : Json}
    (h : value t = .ok (v, rest)) :
    ∃ w, Derives limit? (.element v) w ∧ t = w ++ skipBlanks rest := by
  obtain ⟨w, hw, rfl⟩ := hvalue t v rest h
  obtain ⟨b, hb, hrest⟩ := exists_isBlanks_skipBlanks rest
  refine ⟨[] ++ (w ++ b), .element isBlanks_nil hw hb, ?_⟩
  rw [List.nil_append, List.append_assoc, ← hrest]

theorem exists_items (hvalue : Sound limit? value) {bound : Nat} {done : List Json}
    {t rest : Text} {v : Json} (h : items value bound done t = .ok (v, rest)) :
    ∃ vs w, Derives limit? (.items vs) w ∧ t = w ++ CodePoint.ofChar ']' :: rest ∧
      v = .array (done.reverse ++ vs) := by
  fun_induction items value bound done t with
  | case4 bound done t u behind hread later hskip =>
    obtain ⟨rfl, rfl⟩ := Prod.mk.inj (Except.ok.inj h)
    obtain ⟨w, hw, rfl⟩ := hvalue.element hread
    exact ⟨[u], w, .lastItem hw, by rw [hskip], by rw [List.reverse_cons]⟩
  | case5 bound done t u behind hread later hskip hclose ih =>
    obtain ⟨w, hw, rfl⟩ := hvalue.element hread
    -- the blanks behind a comma are part of the items that follow
    obtain ⟨b, hb, hlater⟩ := exists_isBlanks_skipBlanks later
    obtain ⟨vs, ws, hws, hrest, rfl⟩ := ih h
    refine ⟨u :: vs, w ++ CodePoint.ofChar ',' :: (b ++ ws), .item hw (hws.pad_items hb), ?_, ?_⟩
    · rw [hskip, hlater, hrest]
      simp
    · simp
  | case1 | case2 | case3 | case6 => cases h

theorem exists_key {t rest : Text} {k : Text} (h : key t = .ok (k, rest)) :
    ∃ w before behind, IsString w k ∧ IsBlanks before ∧ IsBlanks behind ∧
      t = w ++ (before ++ CodePoint.ofChar ':' :: (behind ++ rest)) := by
  unfold key at h
  split at h
  · cases h
  · rename_i c t
    split_ifs at h with hquote
    obtain rfl : c = Text.doubleQuote := CodePoint.ext hquote
    cases hstring : string (Text.doubleQuote :: t) {} t with
    | error fault =>
      rw [hstring] at h
      cases h
    | ok found =>
      obtain ⟨k', behind⟩ := found
      obtain ⟨w, hw, rfl⟩ := string_eq_ok_iff.1 hstring
      obtain ⟨before, hbefore, hbehind⟩ := exists_isBlanks_skipBlanks behind
      rw [hstring] at h
      simp only at h
      split at h
      · cases h
      · rename_i d later hskip
        split_ifs at h with hcolon
        obtain ⟨rfl, rfl⟩ := Prod.mk.inj (Except.ok.inj h)
        obtain ⟨b, hb, hlater⟩ := exists_isBlanks_skipBlanks later
        refine ⟨_, before, b, hw, hbefore, hb, ?_⟩
        rw [List.cons_append, ← hlater, ← hcolon, ← hskip, ← hbehind]

theorem exists_members (hvalue : Sound limit? value) {bound : Nat} {done : Members}
    {t rest : Text} {v : Json} (h : members value bound done t = .ok (v, rest)) :
    ∃ ms w, Derives limit? (.members ms) w ∧ t = w ++ CodePoint.ofChar '\x7d' :: rest ∧
      v = .object (collect done ms) := by
  fun_induction members value bound done t with
  | case5 bound done t k atValue hkey u behind hread later hskip =>
    obtain ⟨rfl, rfl⟩ := Prod.mk.inj (Except.ok.inj h)
    obtain ⟨kw, before, after, hkw, hbefore, hafter, rfl⟩ := exists_key hkey
    obtain ⟨w, hw, rfl⟩ := hvalue.element hread
    refine ⟨[(k, u)], _, .lastMember isBlanks_nil hkw hbefore (hw.pad_element hafter), ?_, rfl⟩
    rw [hskip]
    simp only [List.nil_append, List.append_assoc, List.cons_append]
  | case6 bound done t k atValue hkey u behind hread later hskip hclose ih =>
    obtain ⟨kw, before, after, hkw, hbefore, hafter, rfl⟩ := exists_key hkey
    obtain ⟨w, hw, rfl⟩ := hvalue.element hread
    obtain ⟨b, hb, hlater⟩ := exists_isBlanks_skipBlanks later
    obtain ⟨ms, ws, hws, hrest, rfl⟩ := ih h
    refine ⟨(k, u) :: ms, _, .member isBlanks_nil hkw hbefore (hw.pad_element hafter)
      (hws.pad_members hb), ?_, rfl⟩
    rw [hskip, hlater, hrest]
    simp only [List.nil_append, List.append_assoc, List.cons_append]
  | case1 | case2 | case3 | case4 | case7 => cases h

theorem exists_array (hvalue : Sound limit? value) {bound : Nat} {t rest : Text} {v : Json}
    (h : array value bound t = .ok (v, rest)) :
    ∃ w, Derives limit? (.value v) (CodePoint.ofChar '[' :: w) ∧ t = w ++ rest := by
  obtain ⟨b, hb, ht⟩ := exists_isBlanks_skipBlanks t
  rcases array_cases value bound t with ⟨behind, hskip, harray⟩ | harray
  · obtain ⟨rfl, rfl⟩ := Prod.mk.inj (Except.ok.inj (harray.symm.trans h))
    refine ⟨b ++ [CodePoint.ofChar ']'], .emptyArray hb, ?_⟩
    rw [ht, hskip, List.append_assoc, List.singleton_append]
  · obtain ⟨vs, w, hw, hskip, rfl⟩ := exists_items hvalue (harray.symm.trans h)
    refine ⟨b ++ w ++ [CodePoint.ofChar ']'], .array (hw.pad_items hb), ?_⟩
    rw [ht, hskip]
    simp only [List.append_assoc, List.singleton_append]

theorem exists_object (hvalue : Sound limit? value) {bound : Nat} {t rest : Text} {v : Json}
    (h : object value bound t = .ok (v, rest)) :
    ∃ w, Derives limit? (.value v) (CodePoint.ofChar '\x7b' :: w) ∧ t = w ++ rest := by
  obtain ⟨b, hb, ht⟩ := exists_isBlanks_skipBlanks t
  rcases object_cases value bound t with ⟨behind, hskip, hobject⟩ | hobject
  · obtain ⟨rfl, rfl⟩ := Prod.mk.inj (Except.ok.inj (hobject.symm.trans h))
    refine ⟨b ++ [CodePoint.ofChar '\x7d'], .emptyObject hb, ?_⟩
    rw [ht, hskip, List.append_assoc, List.singleton_append]
  · obtain ⟨ms, w, hw, hskip, rfl⟩ := exists_members hvalue (hobject.symm.trans h)
    refine ⟨b ++ w ++ [CodePoint.ofChar '\x7d'], .object (hw.pad_members hb), ?_⟩
    rw [ht, hskip]
    simp only [List.append_assoc, List.singleton_append]

/-- One more level of arrays and objects is read as well as the values in them. -/
theorem sound_of_nested {rules : Rules} (hconstants : rules.constants = false) {bound depth : Nat}
    (hnested : ∀ d, depth = d + 1 → Sound rules.maxDigits? (Reader.value rules bound d)) :
    Sound rules.maxDigits? (Reader.value rules bound depth) := by
  intro t v rest h
  rcases value_cases rules bound depth t with hvalue | ⟨t, rfl⟩ | ⟨t, rfl⟩ | ⟨t, rfl⟩ |
    hvalue
  · rw [hvalue] at h
    cases h
  · rw [value_doubleQuote] at h
    cases hstring : string (Text.doubleQuote :: t) {} t with
    | error fault =>
      rw [hstring] at h
      cases h
    | ok found =>
      obtain ⟨s, behind⟩ := found
      rw [hstring] at h
      obtain ⟨rfl, rfl⟩ := Prod.mk.inj (Except.ok.inj h)
      obtain ⟨w, hw, rfl⟩ := string_eq_ok_iff.1 hstring
      exact ⟨_, .scalar (.string hw), rfl⟩
  · rw [value_bracket] at h
    cases depth with
    | zero => cases h
    | succ d =>
      obtain ⟨w, hw, rfl⟩ := exists_array (hnested d rfl) h
      exact ⟨_, hw, rfl⟩
  · rw [value_brace] at h
    cases depth with
    | zero => cases h
    | succ d =>
      obtain ⟨w, hw, rfl⟩ := exists_object (hnested d rfl) h
      exact ⟨_, hw, rfl⟩
  · rw [hvalue] at h
    obtain ⟨w, hw, ht⟩ := exists_isScalar_of_scalar hconstants h
    exact ⟨w, .scalar hw, ht⟩

/-- The values that are read, however deep they nest, are values of the grammar. -/
theorem sound_value {rules : Rules} (hconstants : rules.constants = false) (bound depth : Nat) :
    Sound rules.maxDigits? (Reader.value rules bound depth) := by
  induction depth with
  | zero => exact sound_of_nested hconstants fun _ h => (nomatch h)
  | succ depth ih => exact sound_of_nested hconstants fun _ h => Nat.succ.inj h ▸ ih

/-- What is read as a whole text is a document. -/
theorem isDocument_of_document {rules : Rules} (hconstants : rules.constants = false) {t : Text}
    {v : Json} (h : document rules t = .ok v) : IsDocument rules.maxDigits? t v := by
  unfold document at h
  split_ifs at h with hmark
  split at h
  · cases h
  · rename_i u rest hvalue
    split at h
    · rename_i hrest
      obtain rfl := Except.ok.inj h
      obtain ⟨w, hw, hskip⟩ := (sound_value hconstants _ _).element hvalue
      obtain ⟨b, hb, ht⟩ := exists_isBlanks_skipBlanks t
      rw [ht, hskip, hrest, List.append_nil]
      exact hw.pad_element hb
    · cases h

end Reader

end Json

end CompletionWire
