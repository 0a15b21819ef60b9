import CompletionWire.Proofs.Json.Readings
import CompletionWire.Proofs.Json.Writing

/-!
# Numbers that are not finite

The writer has names for numbers that are not finite, and the grammar has none. In each of these
names there is a capital letter that no word and no number of the grammar has. So a document has no
such letter outside of its strings, while what is written of a value with such a number does have
one, whatever else is around it.
-/

namespace CompletionWire

namespace Json

open Grammar

/-- What of a text stands outside of its strings. -/
def bare : Zone → Text → Text
  | _, [] => []
  | .behindBackslash, _ :: rest => bare .inString rest
  | .inString, c :: rest => bare (Zone.inString.next c) rest
  | .outside, c :: rest =>
    if c = Text.doubleQuote then bare .inString rest else c :: bare .outside rest

def nameLetters : List Nat := [0x49, 0x4E]

/-- A number that is not finite is named outside of strings. -/
def HasName (t : Text) : Prop := ∃ c ∈ bare .outside t, c.val ∈ nameLetters

/-- In front of any text, `w` brings a name with it exactly if `P`. -/
def Names (P : Prop) (w : Text) : Prop := ∀ rest, HasName (w ++ rest) ↔ P ∨ HasName rest

def IsQuiet (c : CodePoint) : Prop := c.val ≠ 0x22 ∧ c.val ∉ nameLetters

instance (c : CodePoint) : Decidable (IsQuiet c) := inferInstanceAs (Decidable (_ ∧ _))

theorem isQuiet_of_lt {c : CodePoint} (hc : c.val < 0x49) (hne : c.val ≠ 0x22) : IsQuiet c := by
  simp only [IsQuiet, nameLetters, List.mem_cons, List.not_mem_nil, or_false]
  omega

theorem isQuiet_of_isBlanks {b : Text} (hb : IsBlanks b) : ∀ c ∈ b, IsQuiet c := by
  intro c hc
  have hblank := hb c hc
  rw [mem_blanks_iff] at hblank
  exact isQuiet_of_lt (by omega) (by omega)

theorem isQuiet_of_isNumber {limit? : Option Nat} {w : Text} {v : Json} (h : IsNumber limit? w v) :
    ∀ c ∈ w, IsQuiet c := by
  refine forall_mem_of_isNumber h (fun c hdigit => ?_) (by decide)
  rw [isAsciiDigit_iff] at hdigit
  exact isQuiet_of_lt (by omega) (by omega)

/-! ### Pieces of text -/

namespace Names

variable {P Q : Prop} {a b w : Text}

theorem congr (hw : Names P w) (h : P ↔ Q) : Names Q w := by
  intro rest
  rw [hw, h]

theorem append (ha : Names P a) (hb : Names Q b) : Names (P ∨ Q) (a ++ b) := by
  intro rest
  rw [List.append_assoc, ha, hb, or_assoc]

theorem append_left (ha : Names False a) (hb : Names Q b) : Names Q (a ++ b) :=
  (ha.append hb).congr (by rw [false_or])

theorem append_right (ha : Names P a) (hb : Names False b) : Names P (a ++ b) :=
  (ha.append hb).congr (by rw [or_false])

theorem of_unquoted (hw : ∀ c ∈ w, c ≠ Text.doubleQuote) :
    Names (∃ c ∈ w, c.val ∈ nameLetters) w := by
  intro rest
  have hbare : bare .outside (w ++ rest) = w ++ bare .outside rest := by
    induction w with
    | nil => rfl
    | cons c w ih =>
      obtain ⟨hc, hw⟩ := List.forall_mem_cons.1 hw
      rw [List.cons_append, bare, if_neg hc, ih hw, List.cons_append]
  simp only [HasName, hbare, List.mem_append, or_and_right, exists_or]

theorem of_quiet (hw : ∀ c ∈ w, IsQuiet c) : Names False w := by
  refine (of_unquoted fun c hc hquote => ?_).congr (iff_false_intro ?_)
  · subst hquote
    exact (hw _ hc).1 rfl
  · rintro ⟨c, hc, hletter⟩
    exact (hw c hc).2 hletter

theorem cons {c : CodePoint} (hc : IsQuiet c) (hw : Names P w) : Names P (c :: w) :=
  append_left (a := [c]) (of_quiet (List.forall_mem_singleton.2 hc)) hw

theorem of_isBlanks (hb : IsBlanks b) : Names False b := of_quiet (isQuiet_of_isBlanks hb)

theorem of_isString {t s : Text} (h : IsString t s) : Names False t := by
  have hignores : IgnoresStrings bare := ⟨fun _ => if_pos rfl, fun _ _ => rfl, fun _ _ => rfl⟩
  intro rest
  rw [HasName, hignores.string h, false_or, HasName]

end Names

/-! ### Documents -/

/-- Nothing in the grammar has a name. -/
theorem Names.of_derives {limit? : Option Nat} {p : Phrase} {w : Text} (h : Derives limit? p w) :
    Names False w := by
  have hclosed {opening closing : CodePoint} {w : Text} (hopening : IsQuiet opening)
      (hclosing : IsQuiet closing) (hw : Names False w) :
      Names False (opening :: (w ++ [closing])) :=
    .cons hopening (hw.append_right (.of_quiet (List.forall_mem_singleton.2 hclosing)))
  induction h with
  | scalar h =>
    cases h with
    | null => exact .of_quiet (w := text "null") (by decide)
    | true => exact .of_quiet (w := text "true") (by decide)
    | false => exact .of_quiet (w := text "false") (by decide)
    | number h => exact .of_quiet (isQuiet_of_isNumber h)
    | string h => exact .of_isString h
  | emptyArray hb | emptyObject hb => exact hclosed (by decide) (by decide) (.of_isBlanks hb)
  | array h ih | object h ih => exact hclosed (by decide) (by decide) ih
  | element hbefore h hbehind ih =>
    exact (Names.of_isBlanks hbefore).append_left (ih.append_right (.of_isBlanks hbehind))
  | lastItem h ih => exact ih
  | item h hrest ih ihrest => exact ih.append_left (.cons (by decide) ihrest)
  | lastMember hbefore hk hbehind h ih =>
    exact (Names.of_isBlanks hbefore).append_left ((Names.of_isString hk).append_left
      ((Names.of_isBlanks hbehind).append_left (.cons (by decide) ih)))
  | member hbefore hk hbehind h hrest ih ihrest =>
    exact (Names.of_isBlanks hbefore).append_left ((Names.of_isString hk).append_left
      ((Names.of_isBlanks hbehind).append_left
        (.cons (by decide) (ih.append_left (.cons (by decide) ihrest)))))

/-! ### Written values -/

/-- The name of a number that is not finite has a letter of one, and the text of a finite number
has none. -/
theorem names_float (x : Binary64) : Names (x.isFinite = false) (x.write .long) := by
  cases x with
  | nan => exact (Names.of_unquoted (by decide)).congr (by decide)
  | infinity negative =>
    cases negative <;> exact (Names.of_unquoted (by decide)).congr (by decide)
  | finite negative rank =>
    have hfinite : (Binary64.finite negative rank).isFinite = true := rfl
    have hnumber : IsNumber none ((Binary64.finite negative rank).write .long) _ :=
      isNumber_write hfinite
    rw [hfinite]
    exact (Names.of_quiet (isQuiet_of_isNumber hnumber)).congr (by decide)

theorem names_isMark {mark : Char} (hmark : IsQuiet (CodePoint.ofChar mark)) {t : Text}
    (ht : IsMark mark t) : Names False t := by
  obtain ⟨before, behind, hbefore, hbehind, rfl⟩ := ht
  exact (Names.of_isBlanks hbefore).append_left (.cons hmark (.of_isBlanks hbehind))

theorem names_joined {α : Type} {P : α → Prop} {write : α → Text} {separator tail : Text}
    (hseparator : Names False separator) (htail : Names False tail) {xs : List α}
    (h : ∀ x ∈ xs, Names (P x) (write x)) :
    Names (∃ x ∈ xs, P x) (joined separator tail (xs.map write)) := by
  induction xs with
  | nil => exact htail.congr (by simp)
  | cons x xs ih =>
    obtain ⟨hx, hxs⟩ := List.forall_mem_cons.1 h
    cases xs with
    | nil =>
      rw [List.map_singleton, joined_singleton]
      exact (hx.append_right htail).congr (by simp)
    | cons y ys =>
      rw [List.map_cons, List.map_cons, joined_cons_cons]
      exact (hx.append (hseparator.append_left (ih hxs))).congr (by simp)

variable {style : Style}

theorem names_enclose {α : Type} {P : α → Prop} {write : α → Text} (hstyle : style.Lawful)
    (level : Nat) {opening closing : Char} (hopening : IsQuiet (CodePoint.ofChar opening))
    (hclosing : IsQuiet (CodePoint.ofChar closing)) {xs : List α}
    (h : ∀ x ∈ xs, Names (P x) (write x)) :
    Names (∃ x ∈ xs, P x) (enclose style level opening closing (xs.map write)) := by
  have hend : Names False [CodePoint.ofChar closing] :=
    .of_quiet (List.forall_mem_singleton.2 hclosing)
  have hbreak (level : Nat) : Names False (style.breakLine level) :=
    .of_isBlanks (style.isBlanks_breakLine level)
  rcases eq_or_ne xs [] with rfl | hne
  · exact (Names.cons hopening hend).congr (by simp)
  · rw [enclose_of_ne_nil _ _ _ _ (mt List.map_eq_nil_iff.1 hne)]
    have hcomma := names_isMark (by decide) hstyle.comma
    have hjoined := names_joined (hcomma.append_right (hbreak (level + 1))) (hbreak level) h
    exact .cons hopening (((hbreak _).append_left hjoined).append_right hend)

/-- What is written of a value has a name exactly if not all of its numbers are finite. -/
theorem names_writeAt (hstyle : style.Lawful) (v : Json) (level : Nat) :
    Names (v.isFinite = false) (writeAt style level v) := by
  have hfinite {v : Json} {w : Text} (hv : v.isFinite = true) (hw : Names False w) :
      Names (v.isFinite = false) w := hw.congr (by rw [hv]; decide)
  induction v using inductParts generalizing level with
  | null => exact hfinite rfl (.of_quiet (w := text "null") (by decide))
  | bool b =>
    cases b
    · exact hfinite rfl (.of_quiet (w := text "false") (by decide))
    · exact hfinite rfl (.of_quiet (w := text "true") (by decide))
  | int n =>
    have hnumber : IsNumber none (Text.ofInt n) (.int n) :=
      isNumber_ofInt fun _ hlimit => nomatch hlimit
    exact hfinite rfl (.of_quiet (isQuiet_of_isNumber hnumber))
  | float x => exact names_float x
  | string s => exact hfinite rfl (.of_isString (isString_writeString style.asciiOnly s))
  | array xs ih =>
    rw [writeAt, writeItems_eq]
    refine (names_enclose hstyle level (by decide) (by decide)
      fun x hx => ih x hx (level + 1)).congr ?_
    rw [isFinite, itemsFinite_eq, List.all_eq_false]
    simp only [Bool.not_eq_true]
  | object ms ih =>
    have hcolon := names_isMark (by decide) hstyle.colon
    rw [writeAt, writeMembers_eq]
    refine (names_enclose (P := fun m => m.2.isFinite = false) hstyle level (by decide) (by decide)
      fun m hm => ?_).congr ?_
    · have hkey := Names.of_isString (isString_writeString style.asciiOnly m.1)
      exact (hkey.append_right hcolon).append_left (ih m hm (level + 1))
    · rw [isFinite, membersFinite_eq, List.all_eq_false]
      simp only [Bool.not_eq_true]

/-- What is written of a value is a document only if all of its numbers are finite. -/
theorem isFinite_of_isDocument (hstyle : style.Lawful) {limit? : Option Nat} {v u : Json} {b : Text}
    (h : IsDocument limit? (v.write style ++ b) u) : v.isFinite = true := by
  by_contra hfinite
  have hnamed : HasName (v.write style ++ b) :=
    (names_writeAt hstyle v 0 b).2 (.inl (Bool.eq_false_of_not_eq_true hfinite))
  have hnone := (Names.of_derives h []).1 (by rwa [List.append_nil])
  rcases hnone with hfalse | ⟨c, hc, -⟩
  · exact hfalse
  · cases hc

end Json

end CompletionWire
