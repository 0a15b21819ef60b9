import CompletionWire.Proofs.Json.ScalarLineEnds
import CompletionWire.Proofs.Json.Soundness

/-!
# Reading documents across line ends

The values in an array or an object are read alike whatever the line ends around them are, and so is
the whole document. The two texts need not be of one length, so each side has a bound of its own for
the items and members to come.
-/

namespace CompletionWire

namespace Json

namespace Reader

open Text (SameLines)

variable {α : Type} {t u : Text}

/-! ### Arrays and objects -/

theorem skipBlanks_start (h : SameLines t u) :
    (skipBlanks t = [] ∧ skipBlanks u = []) ∨
      ∃ c t' u', skipBlanks t = c :: t' ∧ skipBlanks u = c :: u' ∧ SameLines t' u' := by
  have hstart := (sameLines_skipBlanks h).start
  generalize ht : skipBlanks t = x at hstart
  generalize hu : skipBlanks u = y at hstart
  cases hstart with
  | nil => exact .inl ⟨rfl, rfl⟩
  | cons hc hrest => exact .inr ⟨_, _, _, rfl, rfl, hrest⟩
  | @ends c d hc hd t' u' =>
    have hblank : isJsonBlank c = false := by
      have hhead : (t.dropWhile isJsonBlank).head? = some c := by
        rw [← skipBlanks, ht]
        rfl
      simpa [hhead] using List.head?_dropWhile_not isJsonBlank t
    rcases hc with rfl | rfl
    · cases hblank
    · cases hblank

theorem length_skipBlanks_le (t : Text) : (skipBlanks t).length ≤ t.length :=
  (List.dropWhile_sublist _).length_le

/-- Two ways to read that agree on texts shorter than the bounds of their arrays and objects. -/
def AgreeBelow (n m : Nat) (f g : Text → Outcome α) : Prop :=
  ∀ t u, SameLines t u → t.length < n → u.length < m → Agree (f t) (g u)

variable {limit? : Option Nat} {f g : Text → Outcome Json} {n m : Nat}

theorem AgreeBelow.of_succ (h : AgreeBelow (n + 1) (m + 1) f g) : AgreeBelow n m f g :=
  fun t u hsame ht hu => h t u hsame (ht.trans n.lt_succ_self) (hu.trans m.lt_succ_self)

theorem length_le_of_sound (hf : Sound limit? f) {v : Json} {rest : Text}
    (h : f t = .ok (v, rest)) : rest.length ≤ t.length := by
  obtain ⟨w, -, rfl⟩ := hf t v rest h
  rw [List.length_append]
  exact Nat.le_add_left _ _

/-- Behind an item or a member there is a closing mark, or a comma and more of them, or a fault. -/
theorem agree_behind {rest rest' : Text} (h : SameLines rest rest') (close : CodePoint) (v : Json)
    {next next' : Text → Outcome Json}
    (hnext : ∀ later later', SameLines later later' → later.length < rest.length →
      later'.length < rest'.length → Agree (next later) (next' later')) :
    Agree
      (match skipBlanks rest with
      | [] => .error (.malformed .comma [])
      | c :: behind =>
        if c = close then .ok (v, behind)
        else if c = CodePoint.ofChar ',' then next (skipBlanks behind)
        else .error (.malformed .comma (c :: behind)))
      (match skipBlanks rest' with
      | [] => .error (.malformed .comma [])
      | c :: behind =>
        if c = close then .ok (v, behind)
        else if c = CodePoint.ofChar ',' then next' (skipBlanks behind)
        else .error (.malformed .comma (c :: behind))) := by
  have hlength := length_skipBlanks_le rest
  have hlength' := length_skipBlanks_le rest'
  rcases skipBlanks_start h with ⟨ht, hu⟩ | ⟨c, later, later', ht, hu, hlater⟩
  · rw [ht, hu]
    exact agree_malformed ..
  · rw [ht, List.length_cons] at hlength
    rw [hu, List.length_cons] at hlength'
    rw [ht, hu]
    dsimp only
    split_ifs
    · exact .ok v hlater
    · have hskip := length_skipBlanks_le later
      have hskip' := length_skipBlanks_le later'
      exact hnext _ _ (sameLines_skipBlanks hlater) (by omega) (by omega)
    · exact agree_malformed ..

theorem agreeBelow_items (hf : Sound limit? f) (hg : Sound limit? g) (hfg : AgreeBelow n m f g)
    (done : List Json) : AgreeBelow n m (items f n done) (items g m done) := by
  induction n generalizing m done with
  | zero => exact fun t u _ ht => absurd ht (Nat.not_lt_zero _)
  | succ n ih =>
    intro t u h ht hu
    obtain ⟨m, rfl⟩ := Nat.exists_eq_succ_of_ne_zero (Nat.ne_zero_of_lt hu)
    have hagree := hfg t u h ht hu
    rw [items, items]
    generalize hx : f t = x at hagree
    generalize hy : g u = y at hagree
    cases hagree with
    | error hfault => exact .error hfault
    | ok v hrest =>
      have hlength := length_le_of_sound hf hx
      have hlength' := length_le_of_sound hg hy
      refine agree_behind hrest _ _ fun later later' hlater hlt hlt' => ?_
      exact ih hfg.of_succ _ _ _ hlater (by omega) (by omega)

theorem agree_key (h : SameLines t u) : Agree (key t) (key u) := by
  cases h.start with
  | nil => exact agree_malformed ..
  | ends hc hd =>
    rw [key, key, if_neg, if_neg]
    · exact agree_malformed ..
    · exact fun hval => absurd hd.val (by omega)
    · exact fun hval => absurd hc.val (by omega)
  | @cons c t u _ hrest =>
    rw [key, key]
    split_ifs with hquote
    · obtain rfl : c = Text.doubleQuote := CodePoint.ext hquote
      have hagree := agree_string hrest (Text.doubleQuote :: t) (Text.doubleQuote :: u) {}
      generalize string (Text.doubleQuote :: t) {} t = x at hagree
      generalize string (Text.doubleQuote :: u) {} u = y at hagree
      cases hagree with
      | error hfault => exact .error hfault
      | ok k hbehind =>
        dsimp only
        rcases skipBlanks_start hbehind with ⟨ht, hu⟩ | ⟨d, later, later', ht, hu, hlater⟩
        · rw [ht, hu]
          exact agree_malformed ..
        · rw [ht, hu]
          dsimp only
          split_ifs
          · exact .ok k (sameLines_skipBlanks hlater)
          · exact agree_malformed ..
    · exact agree_malformed ..

theorem length_lt_of_key {k rest : Text} (h : key t = .ok (k, rest)) :
    rest.length < t.length := by
  obtain ⟨w, before, behind, -, -, -, rfl⟩ := exists_key h
  simp only [List.length_append, List.length_cons]
  omega

theorem agreeBelow_members (hf : Sound limit? f) (hg : Sound limit? g)
    (hfg : AgreeBelow n m f g) (done : Members) :
    AgreeBelow n m (members f n done) (members g m done) := by
  induction n generalizing m done with
  | zero => exact fun t u _ ht => absurd ht (Nat.not_lt_zero _)
  | succ n ih =>
    intro t u h ht hu
    obtain ⟨m, rfl⟩ := Nat.exists_eq_succ_of_ne_zero (Nat.ne_zero_of_lt hu)
    have hkeys := agree_key h
    rw [members, members]
    generalize hk : key t = x at hkeys
    generalize hk' : key u = y at hkeys
    cases hkeys with
    | error hfault => exact .error hfault
    | @ok k atValue atValue' hvalues =>
      have hlt := length_lt_of_key hk
      have hlt' := length_lt_of_key hk'
      have hagree := hfg atValue atValue' hvalues (by omega) (by omega)
      dsimp only
      generalize hx : f atValue = x at hagree
      generalize hy : g atValue' = y at hagree
      cases hagree with
      | error hfault => exact .error hfault
      | ok v hrest =>
        have hlength := length_le_of_sound hf hx
        have hlength' := length_le_of_sound hg hy
        refine agree_behind hrest _ _ fun later later' hlater hbehind hbehind' => ?_
        exact ih hfg.of_succ _ _ _ hlater (by omega) (by omega)

theorem agreeBelow_array (hf : Sound limit? f) (hg : Sound limit? g) (hfg : AgreeBelow n m f g) :
    AgreeBelow n m (array f n) (array g m) := by
  intro t u h ht hu
  have hagree := agreeBelow_items hf hg hfg [] _ _ (sameLines_skipBlanks h)
    ((length_skipBlanks_le t).trans_lt ht) ((length_skipBlanks_le u).trans_lt hu)
  rw [array, array]
  rcases skipBlanks_start h with ⟨ht, hu⟩ | ⟨c, behind, behind', ht, hu, hbehind⟩
  · rw [ht, hu] at hagree ⊢
    exact hagree
  · rw [ht, hu] at hagree ⊢
    dsimp only
    split_ifs
    · exact .ok _ hbehind
    · exact hagree

theorem agreeBelow_object (hf : Sound limit? f) (hg : Sound limit? g)
    (hfg : AgreeBelow n m f g) : AgreeBelow n m (object f n) (object g m) := by
  intro t u h ht hu
  have hagree := agreeBelow_members hf hg hfg [] _ _ (sameLines_skipBlanks h)
    ((length_skipBlanks_le t).trans_lt ht) ((length_skipBlanks_le u).trans_lt hu)
  rw [object, object]
  rcases skipBlanks_start h with ⟨ht, hu⟩ | ⟨c, behind, behind', ht, hu, hbehind⟩
  · rw [ht, hu] at hagree ⊢
    exact hagree
  · rw [ht, hu] at hagree ⊢
    dsimp only
    split_ifs
    · exact .ok _ hbehind
    · exact hagree

/-! ### Values and documents -/

theorem agreeBelow_of_nested {rules : Rules} (hconstants : rules.constants = false) {depth : Nat}
    (hnested : ∀ d, depth = d + 1 → AgreeBelow n m (value rules n d) (value rules m d)) :
    AgreeBelow n m (value rules n depth) (value rules m depth) := by
  intro t u h ht hu
  cases h.start with
  | nil =>
    have hnil (bound : Nat) : value rules bound depth [] = .error (.malformed .value []) := by
      rw [value.eq_def]
    rw [hnil, hnil]
    exact agree_malformed ..
  | ends hc hd =>
    have hends {c : CodePoint} (hc : c.IsLineEnd) (bound : Nat) (t : Text) :
        value rules bound depth (c :: t) = scalar rules (c :: t) := by
      refine value_cons ?_ (hc.ne _) (hc.ne _) _ _ _ _
      exact fun hval => absurd hc.val (by omega)
    rw [hends hc, hends hd]
    exact agree_scalar h rules
  | @cons c t u _ hrest =>
    rw [List.length_cons] at ht hu
    by_cases hquote : c.val = 0x22
    · obtain rfl : c = Text.doubleQuote := CodePoint.ext hquote
      have hagree := agree_string hrest (Text.doubleQuote :: t) (Text.doubleQuote :: u) {}
      rw [value_doubleQuote, value_doubleQuote]
      generalize string (Text.doubleQuote :: t) {} t = x at hagree
      generalize string (Text.doubleQuote :: u) {} u = y at hagree
      cases hagree with
      | error hfault => exact .error hfault
      | ok s hbehind => exact .ok (Json.string s) hbehind
    · by_cases hbracket : c = CodePoint.ofChar '['
      · subst hbracket
        rw [value_bracket, value_bracket]
        cases depth with
        | zero => exact .error rfl
        | succ d =>
          exact agreeBelow_array (sound_value hconstants n d) (sound_value hconstants m d)
            (hnested d rfl) _ _ hrest (by omega) (by omega)
      · by_cases hbrace : c = CodePoint.ofChar '\x7b'
        · subst hbrace
          rw [value_brace, value_brace]
          cases depth with
          | zero => exact .error rfl
          | succ d =>
            exact agreeBelow_object (sound_value hconstants n d) (sound_value hconstants m d)
              (hnested d rfl) _ _ hrest (by omega) (by omega)
        · rw [value_cons hquote hbracket hbrace, value_cons hquote hbracket hbrace]
          exact agree_scalar h rules

theorem agreeBelow_value {rules : Rules} (hconstants : rules.constants = false) (depth : Nat) :
    AgreeBelow n m (value rules n depth) (value rules m depth) := by
  induction depth with
  | zero => exact agreeBelow_of_nested hconstants fun _ h => (nomatch h)
  | succ depth ih => exact agreeBelow_of_nested hconstants fun _ h => Nat.succ.inj h ▸ ih

theorem document_of_sameLines {rules : Rules} (hconstants : rules.constants = false)
    (h : SameLines t u) :
    (∃ v, document rules t = .ok v ∧ document rules u = .ok v) ∨
      ∃ f g, document rules t = .error f ∧ document rules u = .error g ∧ f.kind = g.kind := by
  let mark := CodePoint.ofNat 0xFEFF
  have hhead : t.head? = some mark ↔ u.head? = some mark := by
    cases h.start with
    | nil => exact Iff.rfl
    | cons _ _ => exact Iff.rfl
    | ends hc hd =>
      exact iff_of_false (fun heq => hc.ne mark (by decide) (Option.some.inj heq))
        (fun heq => hd.ne mark (by decide) (Option.some.inj heq))
  rw [document, document]
  by_cases hmark : t.head? = some mark
  · rw [if_pos hmark, if_pos (hhead.1 hmark)]
    exact .inr ⟨_, _, rfl, rfl, rfl⟩
  · rw [if_neg hmark, if_neg (mt hhead.2 hmark)]
    have hagree := agreeBelow_value hconstants rules.maxDepth _ _ (sameLines_skipBlanks h)
      (Nat.lt_succ_of_le (length_skipBlanks_le t)) (Nat.lt_succ_of_le (length_skipBlanks_le u))
    generalize value rules (t.length + 1) rules.maxDepth (skipBlanks t) = x at hagree
    generalize value rules (u.length + 1) rules.maxDepth (skipBlanks u) = y at hagree
    cases hagree with
    | error hfault => exact .inr ⟨_, _, rfl, rfl, hfault⟩
    | ok v hrest =>
      dsimp only
      rcases skipBlanks_start hrest with ⟨ht, hu⟩ | ⟨c, behind, behind', ht, hu, -⟩
      · rw [ht, hu]
        exact .inl ⟨v, rfl, rfl⟩
      · rw [ht, hu]
        exact .inr ⟨_, _, rfl, rfl, rfl⟩

end Reader

theorem Fault.kind_located (f : Fault Text) (t : Text) : (f.located t).kind = f.kind := by
  cases f <;> rfl

/-- A text is read alike whatever its line ends are: it has the same value, or the same fault, if at
another place. -/
theorem read_of_sameLines {rules : Rules} (hconstants : rules.constants = false) {t u : Text}
    (h : t.SameLines u) :
    (∃ v, read rules t = .ok v ∧ read rules u = .ok v) ∨
      ∃ f g, read rules t = .error f ∧ read rules u = .error g ∧ f.kind = g.kind := by
  rw [read, read]
  rcases Reader.document_of_sameLines hconstants h with ⟨v, ht, hu⟩ | ⟨f, g, ht, hu, hkind⟩
  · rw [ht, hu]
    exact .inl ⟨v, rfl, rfl⟩
  · rw [ht, hu]
    refine .inr ⟨_, _, rfl, rfl, ?_⟩
    rw [Fault.kind_located, Fault.kind_located, hkind]

end Json

end CompletionWire
