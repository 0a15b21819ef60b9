import CompletionWire.Proofs.Json.Escapes
import CompletionWire.Proofs.Json.Nesting
import CompletionWire.Proofs.Json.Numerals
import CompletionWire.Proofs.Json.Parts

/-!
# Written values

What is written of a value is in the grammar, whatever the style: what stands between items differs
in its blanks only. It writes the value itself but for its texts, of which those with a surrogate
pair are changed where all is ASCII. It nests no deeper than the value, so that a reader which may
hold the value's depth has no cause to give up.
-/

namespace CompletionWire

namespace Json

open Grammar

instance (t : Text) : Decidable (IsBlanks t) := inferInstanceAs (Decidable (∀ c ∈ t, _))

def IsMark (mark : Char) (t : Text) : Prop :=
  ∃ before behind, IsBlanks before ∧ IsBlanks behind ∧
    t = before ++ CodePoint.ofChar mark :: behind

namespace Style

structure Lawful (style : Style) : Prop where
  comma : IsMark ',' style.comma
  colon : IsMark ':' style.colon

theorem lawful_of_blanks {style : Style} {b c : Text} (hb : IsBlanks b) (hc : IsBlanks c)
    (hcomma : style.comma = CodePoint.ofChar ',' :: b)
    (hcolon : style.colon = CodePoint.ofChar ':' :: c) : style.Lawful :=
  ⟨⟨[], b, isBlanks_nil, hb, hcomma⟩, ⟨[], c, isBlanks_nil, hc, hcolon⟩⟩

theorem lawful_spaced : spaced.Lawful :=
  have hblank : IsBlanks (text " ") := by decide
  lawful_of_blanks hblank hblank rfl rfl

theorem lawful_compact : compact.Lawful := lawful_of_blanks isBlanks_nil isBlanks_nil rfl rfl

theorem lawful_indented : indented.Lawful :=
  have hblank : IsBlanks (text " ") := by decide
  lawful_of_blanks isBlanks_nil hblank rfl rfl

theorem isBlanks_breakLine (style : Style) (level : Nat) : IsBlanks (style.breakLine level) := by
  unfold breakLine
  split
  · exact isBlanks_nil
  · intro c hc
    rcases List.mem_cons.1 hc with rfl | hc
    · decide
    · rw [List.eq_of_mem_replicate hc]
      decide

end Style

theorem writeItems_eq (style : Style) (level : Nat) (xs : List Json) :
    writeItems style level xs = xs.map (writeAt style level) := by
  induction xs with
  | nil => rfl
  | cons x xs ih => rw [writeItems, ih, List.map_cons]

theorem writeMembers_eq (style : Style) (level : Nat) (ms : Members) :
    writeMembers style level ms = ms.map fun m =>
      writeString style.asciiOnly m.1 ++ style.colon ++ writeAt style level m.2 := by
  induction ms with
  | nil => rfl
  | cons m ms ih => rw [writeMembers, ih, List.map_cons]

/-! ### What is between brackets -/

def joined (separator tail : Text) (parts : List Text) : Text :=
  separator.intercalate parts ++ tail

variable {separator tail : Text}

theorem joined_singleton (w : Text) : joined separator tail [w] = w ++ tail := by
  rw [joined, List.intercalate_singleton]

theorem joined_cons_cons (w w' : Text) (ws : List Text) :
    joined separator tail (w :: w' :: ws) =
      w ++ (separator ++ joined separator tail (w' :: ws)) := by
  rw [joined, List.intercalate_cons_cons, joined, List.append_assoc, List.append_assoc]

theorem enclose_of_ne_nil (style : Style) (level : Nat) (opening closing : Char) {ws : List Text}
    (h : ws ≠ []) :
    enclose style level opening closing ws =
      CodePoint.ofChar opening :: (style.breakLine (level + 1) ++
        joined (style.comma ++ style.breakLine (level + 1)) (style.breakLine level) ws ++
        [CodePoint.ofChar closing]) := by
  simp [enclose, joined, h]

theorem joined_of_append {Q : Text → Prop} (happend : ∀ {a b}, Q a → Q b → Q (a ++ b))
    {ws : List Text} (hseparator : Q separator) (htail : Q tail) (h : ∀ w ∈ ws, Q w) :
    Q (joined separator tail ws) := by
  induction ws with
  | nil => exact htail
  | cons w ws ih =>
    obtain ⟨hw, hws⟩ := List.forall_mem_cons.1 h
    cases ws with
    | nil =>
      rw [joined_singleton]
      exact happend hw htail
    | cons w' ws =>
      rw [joined_cons_cons]
      exact happend hw (happend hseparator (ih hws))

/-! ### What is derived -/

variable {limit? : Option Nat}

theorem derives_items {write : Json → Text} {f : Json → Json} (hseparator : IsMark ',' separator)
    (htail : IsBlanks tail) {xs : List Json} (hne : xs ≠ [])
    (h : ∀ x ∈ xs, Derives limit? (.value (f x)) (write x)) :
    Derives limit? (.items (xs.map f)) (joined separator tail (xs.map write)) := by
  induction xs with
  | nil => exact absurd rfl hne
  | cons x xs ih =>
    obtain ⟨hx, hxs⟩ := List.forall_mem_cons.1 h
    cases xs with
    | nil =>
      rw [List.map_singleton, List.map_singleton, joined_singleton]
      exact .lastItem (.element isBlanks_nil hx htail)
    | cons y ys =>
      obtain ⟨before, behind, hbefore, hbehind, rfl⟩ := hseparator
      have hrest := (ih (List.cons_ne_nil y ys) hxs).pad_items hbehind
      have hitem := Derives.item (.element isBlanks_nil hx hbefore) hrest
      simpa [joined_cons_cons] using hitem

theorem derives_members (asciiOnly : Bool) {write : Json → Text} {f : Json → Json} {colon : Text}
    (hcolon : IsMark ':' colon) (hseparator : IsMark ',' separator) (htail : IsBlanks tail)
    {ms : Members} (hne : ms ≠ []) (h : ∀ m ∈ ms, Derives limit? (.value (f m.2)) (write m.2)) :
    Derives limit? (.members (ms.map fun m => (readBack asciiOnly m.1, f m.2)))
      (joined separator tail (ms.map fun m => writeString asciiOnly m.1 ++ colon ++ write m.2)) := by
  obtain ⟨behindKey, beforeValue, hbehindKey, hbeforeValue, rfl⟩ := hcolon
  induction ms with
  | nil => exact absurd rfl hne
  | cons m ms ih =>
    obtain ⟨hm, hms⟩ := List.forall_mem_cons.1 h
    have hkey := isString_writeString asciiOnly m.1
    cases ms with
    | nil =>
      have hmember := Derives.lastMember isBlanks_nil hkey hbehindKey
        (.element hbeforeValue hm htail)
      simpa [joined_singleton] using hmember
    | cons n ns =>
      obtain ⟨before, behind, hbefore, hbehind, rfl⟩ := hseparator
      have hrest := (ih (List.cons_ne_nil n ns) hms).pad_members hbehind
      have hmember := Derives.member isBlanks_nil hkey hbehindKey
        (.element hbeforeValue hm hbefore) hrest
      simpa [joined_cons_cons] using hmember

variable {style : Style}

theorem isMark_append_blanks {mark : Char} {t b : Text} (ht : IsMark mark t) (hb : IsBlanks b) :
    IsMark mark (t ++ b) := by
  obtain ⟨before, behind, hbefore, hbehind, rfl⟩ := ht
  refine ⟨before, behind ++ b, hbefore, isBlanks_append.2 ⟨hbehind, hb⟩, ?_⟩
  rw [List.append_assoc, List.cons_append]

/-- What is written of a value stands for the value with its texts as they are read back. -/
theorem derives_writeAt (hstyle : style.Lawful) {maxDigits : Nat} (hdigits : 0 < maxDigits)
    {v : Json} (hv : v.WellFormed maxDigits) (level : Nat) :
    Derives (some maxDigits) (.value (v.mapTexts (readBack style.asciiOnly)))
      (writeAt style level v) := by
  induction v using inductParts generalizing level with
  | null => exact .scalar .null
  | bool b =>
    cases b
    · exact .scalar .false
    · exact .scalar .true
  | int n =>
    refine .scalar (.number (isNumber_ofInt fun limit hlimit => ?_))
    have hlength := Nat.toDigits_length 10 n.natAbs maxDigits hdigits hv.self
    rw [← Option.some.inj hlimit, Text.ofNat, List.length_map]
    exact hlength
  | float x => exact .scalar (.number (isNumber_write hv.self))
  | string s => exact .scalar (.string (isString_writeString style.asciiOnly s))
  | array xs ih =>
    rw [writeAt, writeItems_eq, mapTexts, mapItems_eq]
    rcases eq_or_ne xs [] with rfl | hne
    · exact .emptyArray isBlanks_nil
    · rw [enclose_of_ne_nil _ _ _ _ (mt List.map_eq_nil_iff.1 hne)]
      have hinner := style.isBlanks_breakLine (level + 1)
      have hitems := derives_items (isMark_append_blanks hstyle.comma hinner)
        (style.isBlanks_breakLine level) hne fun x hx => ih x hx (hv.item hx) (level + 1)
      exact .array (hitems.pad_items hinner)
  | object ms ih =>
    rw [writeAt, writeMembers_eq, mapTexts, mapMembers_eq]
    rcases eq_or_ne ms [] with rfl | hne
    · exact .emptyObject isBlanks_nil
    · rw [enclose_of_ne_nil _ _ _ _ (mt List.map_eq_nil_iff.1 hne)]
      have hinner := style.isBlanks_breakLine (level + 1)
      have hmembers := derives_members style.asciiOnly hstyle.colon
        (isMark_append_blanks hstyle.comma hinner) (style.isBlanks_breakLine level) hne
        fun m hm => ih m hm (hv.member hm) (level + 1)
      exact .object (hmembers.pad_members hinner)

/-! ### What parts hand on -/

/-- ASCII that neither opens nor closes anything. -/
def IsNeutral (c : CodePoint) : Prop := c.val < 0x80 ∧ IsFlat c

instance (c : CodePoint) : Decidable (IsNeutral c) := inferInstanceAs (Decidable (_ ∧ _))

theorem isNeutral_of_isBlanks {b : Text} (hb : IsBlanks b) : ∀ c ∈ b, IsNeutral c := by
  intro c hc
  have hblank := hb c hc
  rw [mem_blanks_iff] at hblank
  exact ⟨by omega, isFlat_of_isBlanks hb c hc⟩

theorem isNeutral_of_isMark {mark : Char} (hmark : IsNeutral (CodePoint.ofChar mark)) {t : Text}
    (ht : IsMark mark t) : ∀ c ∈ t, IsNeutral c := by
  obtain ⟨before, behind, hbefore, hbehind, rfl⟩ := ht
  exact List.forall_mem_append.2 ⟨isNeutral_of_isBlanks hbefore,
    List.forall_mem_cons.2 ⟨hmark, isNeutral_of_isBlanks hbehind⟩⟩

theorem isNeutral_of_isNumber {w : Text} {v : Json} (h : IsNumber limit? w v) :
    ∀ c ∈ w, IsNeutral c := by
  refine forall_mem_of_isNumber h (fun c hdigit => ?_) (by decide)
  rw [isAsciiDigit_iff] at hdigit
  exact ⟨by omega, isFlat_of_lt (by omega) (by omega)⟩

theorem isNeutral_write (x : Binary64) : ∀ c ∈ x.write .long, IsNeutral c := by
  cases x with
  | nan => decide
  | infinity negative => cases negative <;> decide
  | finite negative rank =>
    have hfinite : (Binary64.finite negative rank).isFinite = true := rfl
    have hnumber : IsNumber none ((Binary64.finite negative rank).write .long) _ :=
      isNumber_write hfinite
    exact isNeutral_of_isNumber hnumber

/-- A property of text with a bound on its levels that whatever is written has once its strings have
it: parts hand it on to what they make up. -/
structure Composes (Q : Nat → Text → Prop) : Prop where
  mono {m n : Nat} {w : Text} (h : Q m w) (hmn : m ≤ n) : Q n w
  neutral {w : Text} (h : ∀ c ∈ w, IsNeutral c) (n : Nat) : Q n w
  append {n : Nat} {a b : Text} (ha : Q n a) (hb : Q n b) : Q n (a ++ b)
  brackets {n : Nat} {w : Text} (h : Q n w) :
    Q (n + 1) (CodePoint.ofChar '[' :: (w ++ [CodePoint.ofChar ']']))
  braces {n : Nat} {w : Text} (h : Q n w) :
    Q (n + 1) (CodePoint.ofChar '\x7b' :: (w ++ [CodePoint.ofChar '\x7d']))

namespace Composes

variable {Q : Nat → Text → Prop} (hQ : Composes Q)

include hQ

theorem enclose (hstyle : style.Lawful) (level : Nat) {n : Nat} {opening closing : Char}
    (hmarks : ∀ {w : Text}, Q n w →
      Q (n + 1) (CodePoint.ofChar opening :: (w ++ [CodePoint.ofChar closing])))
    {ws : List Text} (h : ∀ w ∈ ws, Q n w) :
    Q (n + 1) (enclose style level opening closing ws) := by
  have hbreak (level : Nat) : Q n (style.breakLine level) :=
    hQ.neutral (isNeutral_of_isBlanks (style.isBlanks_breakLine level)) n
  rcases eq_or_ne ws [] with rfl | hne
  · exact hmarks (w := []) (hQ.neutral (List.forall_mem_nil _) n)
  · have hcomma := hQ.neutral (isNeutral_of_isMark (by decide) hstyle.comma) n
    have hitems := joined_of_append hQ.append (hQ.append hcomma (hbreak (level + 1)))
      (hbreak level) h
    rw [enclose_of_ne_nil _ _ _ _ hne]
    exact hmarks (hQ.append (hbreak _) hitems)

theorem writeAt (hstyle : style.Lawful) {v : Json}
    (hstrings : ∀ s ∈ v.texts, Q 0 (writeString style.asciiOnly s)) (level : Nat) :
    Q v.depth (writeAt style level v) := by
  induction v using inductParts generalizing level with
  | null => exact hQ.neutral (w := text "null") (by decide) 0
  | bool b =>
    cases b
    · exact hQ.neutral (w := text "false") (by decide) 0
    · exact hQ.neutral (w := text "true") (by decide) 0
  | int n =>
    have hnumber : IsNumber none (Text.ofInt n) (.int n) :=
      isNumber_ofInt fun _ hlimit => nomatch hlimit
    exact hQ.neutral (isNeutral_of_isNumber hnumber) 0
  | float x => exact hQ.neutral (isNeutral_write x) 0
  | string s => exact hstrings s (List.mem_singleton_self s)
  | array xs ih =>
    rw [forall_texts_array] at hstrings
    rw [Json.writeAt, writeItems_eq, depth]
    refine hQ.enclose hstyle level hQ.brackets (List.forall_mem_map.2 fun x hx => ?_)
    exact hQ.mono (ih x hx (hstrings x hx) (level + 1)) (depth_le_itemsDepth hx)
  | object ms ih =>
    rw [forall_texts_object] at hstrings
    rw [Json.writeAt, writeMembers_eq, depth]
    refine hQ.enclose hstyle level hQ.braces (List.forall_mem_map.2 fun m hm => ?_)
    obtain ⟨hkey, hvalue⟩ := hstrings m hm
    have hcolon := hQ.neutral (isNeutral_of_isMark (by decide) hstyle.colon) (membersDepth ms)
    have hwritten := ih m hm hvalue (level + 1)
    exact hQ.append (hQ.append (hQ.mono hkey (Nat.zero_le _)) hcolon)
      (hQ.mono hwritten (depth_le_membersDepth hm))

end Composes

/-! ### Nesting -/

/-- Text that opens no more than `depth` levels and closes them again. -/
def IsLevel (depth : Nat) (w : Text) : Prop :=
  ∀ level rest, deepest .outside level (w ++ rest) ≤
    max (level + depth) (deepest .outside level rest)

theorem isLevel_of_flat {w : Text}
    (h : ∀ level rest, deepest .outside level (w ++ rest) = deepest .outside level rest)
    (depth : Nat) : IsLevel depth w := by
  intro level rest
  rw [h]
  exact Nat.le_max_right _ _

theorem isLevel_enclosed {depth : Nat} {opening closing : CodePoint} {w : Text}
    (hopening : opening = CodePoint.ofChar '[' ∨ opening = CodePoint.ofChar '\x7b')
    (hclosing : closing = CodePoint.ofChar ']' ∨ closing = CodePoint.ofChar '\x7d')
    (hw : IsLevel depth w) : IsLevel (depth + 1) (opening :: (w ++ [closing])) := by
  intro level rest
  have hclose : deepest .outside (level + 1) (closing :: rest) =
      max (level + 1) (deepest .outside level rest) := by
    rcases hclosing with rfl | rfl <;> rfl
  have hinner := hw (level + 1) (closing :: rest)
  rw [hclose] at hinner
  rw [List.cons_append, deepest_open level hopening, List.append_assoc, List.singleton_append]
  omega

theorem composes_isLevel : Composes IsLevel where
  mono h hmn := fun level rest =>
    (h level rest).trans (max_le_max_right _ (Nat.add_le_add_left hmn level))
  neutral h := isLevel_of_flat (deepest_append fun c hc => (h c hc).2)
  append ha hb := by
    intro level rest
    rw [List.append_assoc]
    exact (ha level _).trans (max_le (Nat.le_max_left _ _) (hb level rest))
  brackets := isLevel_enclosed (.inl rfl) (.inl rfl)
  braces := isLevel_enclosed (.inr rfl) (.inr rfl)

/-- What is written nests no deeper than the value. -/
theorem nesting_write_le (hstyle : style.Lawful) (v : Json) {b : Text} (hb : IsBlanks b) :
    nesting (v.write style ++ b) ≤ v.depth := by
  have hstring (s : Text) : IsLevel 0 (writeString style.asciiOnly s) :=
    isLevel_of_flat (deepest_isString (isString_writeString style.asciiOnly s)) 0
  have hvalue := composes_isLevel.writeAt (v := v) hstyle (fun s _ => hstring s) 0
  have hblanks := composes_isLevel.neutral (isNeutral_of_isBlanks hb) v.depth
  have hlevel := composes_isLevel.append hvalue hblanks 0 []
  simpa [deepest, nesting, write] using hlevel

/-! ### What is read -/

/-- The reader takes any text that is written of the value. -/
structure Rules.Admit (rules : Rules) (maxDigits : Nat) (v : Json) : Prop where
  constants : rules.constants = false
  limit : rules.maxDigits? = some maxDigits
  digits_pos : 0 < maxDigits
  wellFormed : v.WellFormed maxDigits
  depth : v.depth ≤ rules.maxDepth

/-- What is written of a value is read as the value with its texts as they are read back. -/
theorem document_write {rules : Rules} {maxDigits : Nat} {v : Json}
    (hrules : rules.Admit maxDigits v) (hstyle : style.Lawful) {b : Text} (hb : IsBlanks b) :
    Reader.document rules (v.write style ++ b) = .ok (v.mapTexts (readBack style.asciiOnly)) := by
  have hderives := derives_writeAt hstyle hrules.digits_pos hrules.wellFormed 0
  rw [← hrules.limit] at hderives
  rcases Reader.document_of_isDocument (.element isBlanks_nil hderives hb) with hread | hdeep
  · exact hread
  · have hlt := Reader.lt_nesting_of_document hrules.constants hdeep
    have hle := nesting_write_le hstyle v hb
    exact absurd (hlt.trans_le (hle.trans hrules.depth)) (Nat.lt_irrefl _)

/-- It is the value itself exactly if no text changes on the way. -/
theorem document_write_eq_ok_iff {rules : Rules} {maxDigits : Nat} {v : Json}
    (hrules : rules.Admit maxDigits v) (hstyle : style.Lawful) {b : Text} (hb : IsBlanks b) :
    Reader.document rules (v.write style ++ b) = .ok v ↔
      (style.asciiOnly = true → ∀ s ∈ v.texts, ¬s.HasSurrogatePair) := by
  rw [document_write hrules hstyle hb, Except.ok.injEq, mapTexts_eq_self_iff hrules.wellFormed]
  cases hascii : style.asciiOnly with
  | false => simp [readBack]
  | true => simp [readBack, Text.joined_eq_self_iff]

theorem read_eq_ok_iff {rules : Rules} {t : Text} {v : Json} :
    read rules t = .ok v ↔ Reader.document rules t = .ok v := by
  rw [read]
  cases Reader.document rules t <;> simp [Except.mapError]

end Json

end CompletionWire
