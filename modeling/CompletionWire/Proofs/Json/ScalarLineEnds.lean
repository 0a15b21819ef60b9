import CompletionWire.Proofs.Json.Scalars
import CompletionWire.Proofs.Text.LineEnds

/-!
# Reading scalars across line ends

Carriage returns and line feeds are blanks between the parts of a document and a fault anywhere
else. So two texts that differ in nothing but their line ends are read side by side: each step finds
the same on both sides and leaves texts that differ in their line ends only, or has the same fault.
-/

namespace CompletionWire

namespace Json

def Fault.kind {Place : Type} : Fault Place → Fault Unit
  | .malformed problem _ => .malformed problem ()
  | .tooManyDigits count => .tooManyDigits count
  | .constant c => .constant c
  | .tooDeep => .tooDeep

namespace Reader

open Grammar
open Text (SameLines)

/-! ### Agreement -/

/-- Two readings that find the same in front of texts that differ in their line ends only, or
nothing on either side. -/
inductive Found {α : Type} : Option (α × Text) → Option (α × Text) → Prop
  | none : Found .none .none
  | some (a : α) {t u : Text} (h : SameLines t u) : Found (.some (a, t)) (.some (a, u))

/-- Two outcomes that agree: they are the same value in front of texts that differ in their line
ends only, or the same fault, if at another place. -/
inductive Agree {α : Type} : Outcome α → Outcome α → Prop
  | ok (a : α) {t u : Text} (h : SameLines t u) : Agree (.ok (a, t)) (.ok (a, u))
  | error {f g : Fault Text} (h : f.kind = g.kind) : Agree (.error f) (.error g)

variable {α : Type} {t u : Text}

theorem agree_malformed (p : Problem) (t u : Text) :
    Agree (.error (.malformed p t) : Outcome α) (.error (.malformed p u)) :=
  .error rfl

theorem found_of_some {f : Text → Option (α × Text)}
    (hf : ∀ t u a rest, SameLines t u → f t = some (a, rest) →
      ∃ rest', f u = some (a, rest') ∧ SameLines rest rest') (h : SameLines t u) :
    Found (f t) (f u) := by
  cases ht : f t with
  | some found =>
    obtain ⟨a, rest⟩ := found
    obtain ⟨rest', hu, hrest⟩ := hf t u a rest h ht
    rw [hu]
    exact .some a hrest
  | none =>
    cases hu : f u with
    | none => exact .none
    | some found =>
      obtain ⟨a, rest⟩ := found
      obtain ⟨rest', ht', -⟩ := hf u t a rest h.symm hu
      cases ht.symm.trans ht'

theorem sameLines_skipBlanks (h : SameLines t u) : SameLines (skipBlanks t) (skipBlanks u) := by
  induction h with
  | nil => exact .nil
  | @cons c t u hc h ih =>
    rw [skipBlanks, skipBlanks]
    cases hblank : isJsonBlank c with
    | true => simpa [skipBlanks, hblank] using ih
    | false => simpa [hblank] using SameLines.cons hc h
  | @ends a b t u ha hb h ih =>
    have hblanks {a : Text} (ha : Text.IsLineEnds a) : IsBlanks a := by
      intro c hc
      rcases (ha.2 c hc).val with hval | hval <;> rw [hval] <;> decide
    rwa [skipBlanks_append (hblanks ha), skipBlanks_append (hblanks hb)]

/-! ### Strings -/

def escapedNumber? : Text → Option (CodePoint × Text)
  | a :: b :: c :: d :: next :: later => (hexCodePoint? a b c d).map (·, next :: later)
  | _ => none

theorem string_escapedNumber? (start : Text) (p : Piece) (t : Text) :
    string start p (Text.backslash :: CodePoint.ofChar 'u' :: t) =
      match escapedNumber? t with
      | some (x, rest) => string start (p.pushEscaped x) rest
      | none => .error (.malformed .unicodeEscape (CodePoint.ofChar 'u' :: t)) := by
  rw [string.eq_def]
  rcases t with _ | ⟨a, _ | ⟨b, _ | ⟨c, _ | ⟨d, _ | ⟨next, later⟩⟩⟩⟩⟩
  case cons.cons.cons.cons.cons =>
    rw [escapedNumber?]
    cases hx : hexCodePoint? a b c d with
    | none => simp [show Text.backslash.val = 0x5C from rfl, hx]
    | some x => simp [show Text.backslash.val = 0x5C from rfl, hx]
  all_goals rfl

theorem exists_of_escapedNumber? {rest : Text} {x : CodePoint}
    (h : escapedNumber? t = some (x, rest)) :
    ∃ a b c d next later, hexCodePoint? a b c d = some x ∧ rest = next :: later ∧
      t = [a, b, c, d] ++ rest := by
  unfold escapedNumber? at h
  split at h
  · rename_i a b c d next later
    obtain ⟨y, hy, hpair⟩ := Option.map_eq_some_iff.1 h
    obtain ⟨rfl, rfl⟩ := Prod.mk.inj hpair
    exact ⟨a, b, c, d, next, later, hy, rfl, rfl⟩
  · cases h

theorem found_escapedNumber? (h : SameLines t u) :
    Found (escapedNumber? t) (escapedNumber? u) := by
  have hhex {d : CodePoint} {n : Nat} (hd : d.hexValue? = some n) : ¬d.IsLineEnd := by
    rintro (rfl | rfl)
    · cases hd
    · cases hd
  refine found_of_some (fun t u x rest h ht => ?_) h
  obtain ⟨a, b, c, d, next, later, hx, rfl, rfl⟩ := exists_of_escapedNumber? ht
  obtain ⟨_, _, _, _, ha, hb, hc, hd, -⟩ := hexCodePoint?_eq_some_iff.1 hx
  have hdigits : ∀ e ∈ [a, b, c, d], ¬e.IsLineEnd := by
    simp only [List.forall_mem_cons]
    exact ⟨hhex ha, hhex hb, hhex hc, hhex hd, List.forall_mem_nil _⟩
  obtain ⟨rest', rfl, hrest⟩ := h.exists_append hdigits
  obtain ⟨next', later', rfl⟩ : ∃ next' later', rest' = next' :: later' := by
    cases hrest.start with
    | cons _ _ => exact ⟨_, _, rfl⟩
    | ends _ _ => exact ⟨_, _, rfl⟩
  exact ⟨_, by simp [escapedNumber?, hx], hrest⟩

theorem string_control {c : CodePoint} (hc : c.val < 0x20) (start : Text) (p : Piece)
    (rest : Text) :
    string start p (c :: rest) = .error (.malformed .controlCharacter (c :: rest)) := by
  rw [string.eq_def]
  simp only [hc, if_true]
  rw [if_neg (by omega), if_neg (by omega)]

theorem string_badEscape {e : CodePoint} (hu : e ≠ CodePoint.ofChar 'u') (h : escaped? e = none)
    (start : Text) (p : Piece) (rest : Text) :
    string start p (Text.backslash :: e :: rest) =
      .error (.malformed .escape (Text.backslash :: e :: rest)) := by
  rw [string.eq_def]
  simp only [show Text.backslash.val = 0x5C from rfl, hu, h, if_false]
  rfl

theorem agree_string (h : SameLines t u) (start start' : Text) (p : Piece) :
    Agree (string start p t) (string start' p u) := by
  have hcontrol {c : CodePoint} (hc : c.IsLineEnd) : c.val < 0x20 := by
    have := hc.val
    omega
  have hescape {e : CodePoint} (he : e.IsLineEnd) :
      e ≠ CodePoint.ofChar 'u' ∧ escaped? e = none := by
    rcases he with rfl | rfl
    · decide
    · decide
  induction hlength : t.length using Nat.strong_induction_on generalizing t u p with
  | _ n ih =>
    subst hlength
    cases h.start with
    | nil => exact agree_malformed ..
    | ends hc hd =>
      rw [string_control (hcontrol hc), string_control (hcontrol hd)]
      exact agree_malformed ..
    | @cons c t u _ hrest =>
      by_cases hquote : c.val = 0x22
      · obtain rfl : c = Text.doubleQuote := CodePoint.ext hquote
        rw [string_doubleQuote, string_doubleQuote]
        exact .ok _ hrest
      by_cases hbackslash : c.val = 0x5C
      · obtain rfl : c = Text.backslash := CodePoint.ext hbackslash
        cases hrest.start with
        | nil => exact agree_malformed ..
        | ends hd he =>
          rw [string_badEscape (hescape hd).1 (hescape hd).2,
            string_badEscape (hescape he).1 (hescape he).2]
          exact agree_malformed ..
        | @cons e t u _ hbehind =>
          by_cases hu : e = CodePoint.ofChar 'u'
          · subst hu
            have hnumber := found_escapedNumber? hbehind
            rw [string_escapedNumber?, string_escapedNumber?]
            generalize hx : escapedNumber? t = x at hnumber
            generalize escapedNumber? u = y at hnumber
            cases hnumber with
            | none => exact agree_malformed ..
            | some x hlater =>
              obtain ⟨_, _, _, _, _, _, -, -, rfl⟩ := exists_of_escapedNumber? hx
              refine ih _ ?_ hlater _ rfl
              simp only [List.length_cons, List.length_append]
              omega
          · cases hx : escaped? e with
            | none =>
              rw [string_badEscape hu hx, string_badEscape hu hx]
              exact agree_malformed ..
            | some x =>
              rw [string_short hx, string_short hx]
              refine ih _ ?_ hbehind _ rfl
              simp only [List.length_cons]
              omega
      by_cases hlow : c.val < 0x20
      · rw [string_control hlow, string_control hlow]
        exact agree_malformed ..
      · have hc : 0x20 ≤ c.val := Nat.le_of_not_lt hlow
        rw [string_literal hc hquote hbackslash, string_literal hc hquote hbackslash]
        exact ih _ (Nat.lt_succ_self _) hrest _ rfl

/-! ### Numbers -/

theorem isAsciiDigit_eq_false {c : CodePoint} (hc : c.IsLineEnd) : c.isAsciiDigit = false := by
  rcases hc with rfl | rfl
  · decide
  · decide

theorem found_cutDigits (h : SameLines t u) : Found (some (cutDigits t)) (some (cutDigits u)) := by
  obtain ⟨hdigits, hbehind⟩ := h.takeWhile_dropWhile fun _ => isAsciiDigit_eq_false
  have hpair : cutDigits t = ((cutDigits u).1, (cutDigits t).2) := Prod.ext hdigits rfl
  rw [hpair]
  exact .some _ hbehind

theorem found_wholePart? (h : SameLines t u) : Found (wholePart? t) (wholePart? u) := by
  have hends {c : CodePoint} (hc : c.IsLineEnd) (t : Text) : wholePart? (c :: t) = none := by
    have hval := hc.val
    rw [wholePart?, if_neg (by omega), isAsciiDigit_eq_false hc]
    rfl
  cases h.start with
  | nil => exact .none
  | @cons c t u hc hrest =>
    rw [wholePart?, wholePart?]
    split_ifs
    · exact .some [c] hrest
    · exact found_cutDigits h
    · exact .none
  | ends hc hd =>
    rw [hends hc, hends hd]
    exact .none

theorem found_fractionPart? (h : SameLines t u) :
    Found (fractionPart? t) (fractionPart? u) := by
  have hends {c : CodePoint} (hc : c.IsLineEnd) (t : Text) : fractionPart? (c :: t) = none :=
    fractionPart?_eq_none fun heq => hc.ne _ (by decide) (Option.some.inj heq)
  cases h.start with
  | nil => exact .none
  | @cons c t u hc hrest =>
    cases hrest.start with
    | nil => exact .none
    | @cons d t u hd =>
      rw [fractionPart?, fractionPart?]
      split_ifs
      · exact found_cutDigits hrest
      · exact .none
    | @ends d e hd he =>
      have hnever : ¬(c = CodePoint.ofChar '.' ∧ false = true) := by simp
      rw [fractionPart?, fractionPart?, isAsciiDigit_eq_false hd, isAsciiDigit_eq_false he,
        if_neg hnever, if_neg hnever]
      exact .none
  | ends hc hd =>
    rw [hends hc, hends hd]
    exact .none

theorem not_isLineEnd_of_isExponentSign {s : Text} {negative : Bool}
    (h : IsExponentSign s negative) : ∀ c ∈ s, ¬c.IsLineEnd := by
  cases h with
  | absent => exact List.forall_mem_nil _
  | plus => exact List.forall_mem_singleton.2 (by unfold CodePoint.IsLineEnd; decide)
  | minus => exact List.forall_mem_singleton.2 (by unfold CodePoint.IsLineEnd; decide)

theorem endsSign_of_sameLines {s : Text} (h : SameLines t u) (ht : EndsSign s t) :
    EndsSign s u := by
  intro hs c hc
  cases h.start with
  | nil => cases hc
  | cons _ _ => exact ht hs c hc
  | ends _ hd =>
    obtain rfl := Option.some.inj hc
    exact ⟨hd.ne _, hd.ne _⟩

theorem found_exponentPart? (h : SameLines t u) :
    Found (exponentPart? t) (exponentPart? u) := by
  have hends {c : CodePoint} (hc : c.IsLineEnd) (t : Text) : exponentPart? (c :: t) = none := by
    apply exponentPart?_eq_none
    intro d hd hmark
    obtain rfl := Option.some.inj hd
    exact hmark.elim (hc.ne _) (hc.ne _)
  cases h.start with
  | nil => exact .none
  | @cons mark t u _ hrest =>
    by_cases hmark : mark = CodePoint.ofChar 'e' ∨ mark = CodePoint.ofChar 'E'
    · obtain ⟨s, negative, body, hs, hbody, rfl⟩ := exists_exponentSign t
      obtain ⟨body', rfl, hbodies⟩ := hrest.exists_append (not_isLineEnd_of_isExponentSign hs)
      rw [exponentPart?_cons hmark hs hbody,
        exponentPart?_cons hmark hs (endsSign_of_sameLines hbodies hbody)]
      have hdigits := found_cutDigits hbodies
      generalize cutDigits body = x at hdigits
      generalize cutDigits body' = y at hdigits
      cases hdigits with
      | some ds hbehind =>
        dsimp only
        split_ifs
        · exact .none
        · exact .some _ hbehind
    · have hnone (t : Text) : exponentPart? (mark :: t) = none :=
        exponentPart?_eq_none fun c hc => by rwa [← Option.some.inj hc]
      rw [hnone, hnone]
      exact .none
  | ends hc hd =>
    rw [hends hc, hends hd]
    exact .none

/-- What stands before an exponent is a number with it, and without it if there is none. -/
theorem agree_beforeExponent (h : SameLines t u) (f : Int → Json) {x y : Outcome Json}
    (hnone : Agree x y) :
    Agree (match exponentPart? t with | some (e, rest) => .ok (f e, rest) | none => x)
      (match exponentPart? u with | some (e, rest) => .ok (f e, rest) | none => y) := by
  have hexponent := found_exponentPart? h
  generalize exponentPart? t = x at hexponent
  generalize exponentPart? u = y at hexponent
  cases hexponent with
  | none => exact hnone
  | some e hrest => exact .ok _ hrest

theorem agree_unsignedNumber (h : SameLines t u) (rules : Rules) (start start' : Text)
    (negative : Bool) :
    Agree (unsignedNumber rules start negative t) (unsignedNumber rules start' negative u) := by
  have hwhole := found_wholePart? h
  rw [unsignedNumber, unsignedNumber]
  generalize wholePart? t = x at hwhole
  generalize wholePart? u = y at hwhole
  cases hwhole with
  | none => exact agree_malformed ..
  | @some whole t u hrest =>
    have hfraction := found_fractionPart? hrest
    dsimp only
    generalize fractionPart? t = x at hfraction
    generalize fractionPart? u = y at hfraction
    cases hfraction with
    | none =>
      refine agree_beforeExponent hrest _ ?_
      dsimp only [Option.isSome]
      cases wholeNumber rules negative whole with
      | ok v => exact .ok v hrest
      | error f => exact .error rfl
    | some fraction hbehind => exact agree_beforeExponent hbehind _ (.ok _ hbehind)

theorem agree_number (h : SameLines t u) (rules : Rules) :
    Agree (number rules t) (number rules u) := by
  cases h.start with
  | nil => exact agree_malformed ..
  | @cons c t u hc hrest =>
    rw [number, number]
    split_ifs
    · exact agree_unsignedNumber hrest ..
    · exact agree_unsignedNumber h ..
  | ends hc hd =>
    rw [number, number, if_neg (hc.ne _), if_neg (hd.ne _)]
    exact agree_unsignedNumber h ..

/-! ### Words -/

theorem found_dropStart? (h : SameLines t u) {w : Text} (hw : ∀ c ∈ w, ¬c.IsLineEnd) (a : α) :
    Found ((Text.dropStart? w t).map (a, ·)) ((Text.dropStart? w u).map (a, ·)) := by
  refine found_of_some (f := fun t => (Text.dropStart? w t).map (a, ·))
    (fun t u b rest h ht => ?_) h
  obtain ⟨rest, hdrop, hpair⟩ := Option.map_eq_some_iff.1 ht
  obtain ⟨rfl, rfl⟩ := Prod.mk.inj hpair
  obtain rfl := Text.eq_append_of_dropStart? hdrop
  obtain ⟨rest', rfl, hrest⟩ := h.exists_append hw
  exact ⟨rest', by rw [Text.dropStart?_append, Option.map_some], hrest⟩

theorem found_findSome? {β : Type} (h : SameLines t u) (word : β → Text) (found : β → α)
    {xs : List β} (hxs : ∀ x ∈ xs, ∀ c ∈ word x, ¬c.IsLineEnd) :
    Found (xs.findSome? fun x => (Text.dropStart? (word x) t).map (found x, ·))
      (xs.findSome? fun x => (Text.dropStart? (word x) u).map (found x, ·)) := by
  induction xs with
  | nil => exact .none
  | cons x xs ih =>
    obtain ⟨hx, hxs⟩ := List.forall_mem_cons.1 hxs
    have hfirst := found_dropStart? h hx (found x)
    rw [List.findSome?_cons, List.findSome?_cons]
    generalize (Text.dropStart? (word x) t).map (found x, ·) = y at hfirst
    generalize (Text.dropStart? (word x) u).map (found x, ·) = z at hfirst
    cases hfirst with
    | none => exact ih hxs
    | some a hrest => exact .some a hrest

theorem found_word? (h : SameLines t u) : Found (word? t) (word? u) := by
  have hwords : ∀ w ∈ words, ∀ c ∈ w.1, ¬c.IsLineEnd := by
    unfold CodePoint.IsLineEnd
    decide
  exact found_findSome? h Prod.fst Prod.snd hwords

theorem found_constant? (h : SameLines t u) : Found (constant? t) (constant? u) := by
  have hnames : ∀ c ∈ [Constant.nan, .infinity, .minusInfinity], ∀ d ∈ c.name, ¬d.IsLineEnd := by
    unfold CodePoint.IsLineEnd
    decide
  exact found_findSome? h Constant.name id hnames

theorem agree_scalar (h : SameLines t u) (rules : Rules) :
    Agree (scalar rules t) (scalar rules u) := by
  have hword := found_word? h
  rw [scalar, scalar]
  generalize word? t = x at hword
  generalize word? u = y at hword
  cases hword with
  | some v hrest => exact .ok v hrest
  | none =>
    have hconstant := found_constant? h
    generalize constant? t = x at hconstant
    generalize constant? u = y at hconstant
    cases hconstant with
    | none => exact agree_number h rules
    | some c hrest =>
      dsimp only
      split_ifs
      · exact .ok _ hrest
      · exact .error rfl

end Reader

end Json

end CompletionWire
