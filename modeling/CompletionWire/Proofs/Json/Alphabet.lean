import CompletionWire.Proofs.Json.Writing
import CompletionWire.Proofs.Text.Utf8

/-!
# The code points of written values

Besides ASCII, what is written of a value has the code points of its texts only, and has none of
them where all is ASCII. So it has bytes wherever the texts themselves have, or where nothing but
ASCII is written. Where code points beyond ASCII stand as they are, surrogates do so too, and then
it has bytes exactly if the texts have.
-/

namespace CompletionWire

theorem Text.not_hasSurrogatePair {t : Text} (ht : t.IsUnicode) : ¬t.HasSurrogatePair := by
  intro hpair
  obtain ⟨high, low, hhigh, -, hwithin⟩ := hpair
  have hnot := ht high (hwithin.subset List.mem_cons_self)
  rw [(CodePoint.isSurrogate_iff high).2 (.inl hhigh)] at hnot
  exact absurd hnot (by decide)

namespace Json

open Grammar

variable {P : CodePoint → Prop}

section Strings

variable (hprintable : ∀ c, 0x20 ≤ c.val → c.val < 0x80 → P c)

include hprintable

theorem forall_mem_unicodeEscape (c : CodePoint) : ∀ d ∈ unicodeEscape c, P d := by
  have hdigit (n : Nat) : P (CodePoint.hexDigit (n % 16)) := by
    have hall : ∀ n < 16,
        0x20 ≤ (CodePoint.hexDigit n).val ∧ (CodePoint.hexDigit n).val < 0x80 := by decide
    obtain ⟨hlow, hhigh⟩ := hall _ (Nat.mod_lt n (by decide))
    exact hprintable _ hlow hhigh
  have hhex (width n : Nat) : ∀ d ∈ Text.hex width n, P d := by
    induction width generalizing n with
    | zero => exact fun _ hd => nomatch hd
    | succ width ih =>
      exact List.forall_mem_append.2 ⟨ih _, List.forall_mem_singleton.2 (hdigit n)⟩
  have hmarks : ∀ d ∈ text "\\u", 0x20 ≤ d.val ∧ d.val < 0x80 := by decide
  exact List.forall_mem_append.2
    ⟨fun d hd => hprintable d (hmarks d hd).1 (hmarks d hd).2, hhex 4 c.val⟩

theorem forall_mem_of_writes {asciiOnly : Bool} {c : CodePoint} {w : Text}
    (hw : Writes asciiOnly c w) (hc : asciiOnly = false → P c) : ∀ d ∈ w, P d := by
  cases hw with
  | @short d h =>
    have hletters : ∀ e ∈ shortEscapes, 0x20 ≤ e.1 ∧ e.1 < 0x80 := by decide
    have hletter : P d := hprintable d (hletters _ h).1 (hletters _ h).2
    have hbackslash : P Text.backslash := hprintable _ (by decide) (by decide)
    exact List.forall_mem_cons.2 ⟨hbackslash, List.forall_mem_singleton.2 hletter⟩
  | numbered => exact forall_mem_unicodeEscape hprintable c
  | literal hunit hsmall =>
    refine List.forall_mem_singleton.2 ?_
    cases asciiOnly with
    | false => exact hc rfl
    | true =>
      obtain ⟨hlow, -, -⟩ := hunit
      exact hprintable c hlow ((hsmall rfl).trans (by decide))
  | pair =>
    exact List.forall_mem_append.2
      ⟨forall_mem_unicodeEscape hprintable _, forall_mem_unicodeEscape hprintable _⟩

theorem forall_mem_writeString {asciiOnly : Bool} {s : Text}
    (hs : asciiOnly = false → ∀ c ∈ s, P c) : ∀ d ∈ writeString asciiOnly s, P d := by
  have hquote : ∀ d ∈ text "\"", P d :=
    List.forall_mem_singleton.2 (hprintable _ (by decide) (by decide))
  refine List.forall_mem_append.2 ⟨List.forall_mem_append.2 ⟨hquote, ?_⟩, hquote⟩
  exact List.forall_mem_flatMap.2 fun c hc =>
    forall_mem_of_writes hprintable (writes_writeCodePoint asciiOnly c) fun h => hs h c hc

end Strings

section Values

variable (hascii : ∀ c, c.val < 0x80 → P c)

include hascii

theorem composes_forall_mem : Composes fun _ w => ∀ c ∈ w, P c where
  mono h _ := h
  neutral h _ := fun c hc => hascii c (h c hc).1
  append ha hb := List.forall_mem_append.2 ⟨ha, hb⟩
  brackets h := List.forall_mem_cons.2 ⟨hascii _ (by decide), List.forall_mem_append.2
    ⟨h, List.forall_mem_singleton.2 (hascii _ (by decide))⟩⟩
  braces h := List.forall_mem_cons.2 ⟨hascii _ (by decide), List.forall_mem_append.2
    ⟨h, List.forall_mem_singleton.2 (hascii _ (by decide))⟩⟩

/-- ASCII is written besides the code points of the texts, and nothing else where all is ASCII. -/
theorem forall_mem_write {style : Style} (hstyle : style.Lawful) {v : Json}
    (htexts : style.asciiOnly = false → ∀ s ∈ v.texts, ∀ c ∈ s, P c) :
    ∀ c ∈ v.write style, P c :=
  (composes_forall_mem hascii).writeAt hstyle
    (fun s hs => forall_mem_writeString (fun c _ => hascii c) fun h => htexts h s hs) 0

end Values

theorem isSurrogate_of_lt {c : CodePoint} (hc : c.val < 0x80) : c.isSurrogate = false := by
  simp only [CodePoint.isSurrogate, Bool.and_eq_false_iff, decide_eq_false_iff_not]
  omega

/-- What is written of a value has bytes if its texts have, or if all is ASCII. -/
theorem isUnicode_write {style : Style} (hstyle : style.Lawful) {maxDigits : Nat} {v : Json}
    (_ : v.WellFormed maxDigits)
    (htexts : style.asciiOnly = false → ∀ s ∈ v.texts, s.IsUnicode) :
    (v.write style).IsUnicode :=
  forall_mem_write (fun _ => isSurrogate_of_lt) hstyle htexts

/-! ### What is not escaped -/

theorem mem_joined {separator tail w : Text} {ws : List Text} (hw : w ∈ ws) {c : CodePoint}
    (hc : c ∈ w) : c ∈ joined separator tail ws := by
  induction hw with
  | head ws =>
    cases ws with
    | nil =>
      rw [joined_singleton]
      exact List.mem_append_left _ hc
    | cons w' ws =>
      rw [joined_cons_cons]
      exact List.mem_append_left _ hc
  | @tail v ws hw ih =>
    cases ws with
    | nil => cases hw
    | cons w' ws =>
      rw [joined_cons_cons]
      exact List.mem_append_right _ (List.mem_append_right _ ih)

theorem mem_enclose {style : Style} {level : Nat} {opening closing : Char} {w : Text}
    {ws : List Text} (hw : w ∈ ws) {c : CodePoint} (hc : c ∈ w) :
    c ∈ enclose style level opening closing ws := by
  rw [enclose_of_ne_nil _ _ _ _ (List.ne_nil_of_mem hw)]
  refine .tail _ (List.mem_append_left _ (List.mem_append_right _ (mem_joined hw hc)))

theorem mem_writeString {s : Text} {c : CodePoint} (hc : c ∈ s) (hsurrogate : c.isSurrogate = true) :
    c ∈ writeString false s := by
  have hlarge : 0x80 ≤ c.val := by
    by_contra hsmall
    rw [isSurrogate_of_lt (Nat.not_le.1 hsmall)] at hsurrogate
    cases hsurrogate
  have hliteral {w : Text} (hw : Writes false c w) : c ∈ w := by
    cases hw with
    | short h => exact absurd (lt_of_mem_shortEscapes h).2 (Nat.not_lt.2 hlarge)
    | numbered _ hsmall =>
      exact absurd ((hsmall rfl).trans (by decide)) (Nat.not_lt.2 hlarge)
    | literal => exact List.mem_singleton_self c
    | pair hastral =>
      have hlt := val_lt_of_surrogate ((CodePoint.isSurrogate_iff c).1 hsurrogate)
      exact absurd hlt (Nat.not_lt.2 hastral)
  have hmem := List.mem_flatMap.2 ⟨c, hc, hliteral (writes_writeCodePoint false c)⟩
  exact List.mem_append_left _ (List.mem_append_right _ hmem)

theorem mem_writeAt {style : Style} (hstyle : style.asciiOnly = false) (v : Json) (level : Nat) :
    ∀ s ∈ v.texts, ∀ c ∈ s, c.isSurrogate = true → c ∈ writeAt style level v := by
  induction v using inductParts generalizing level with
  | string t =>
    rw [texts_string, writeAt, hstyle]
    exact List.forall_mem_singleton.2 fun c => mem_writeString
  | array xs ih =>
    rw [writeAt, writeItems_eq]
    exact forall_texts_array.2 fun x hx s hs c hc hsurrogate =>
      mem_enclose (List.mem_map_of_mem hx) (ih x hx (level + 1) s hs c hc hsurrogate)
  | object ms ih =>
    rw [writeAt, writeMembers_eq]
    refine forall_texts_object.2 fun m hm =>
      ⟨fun c hc hsurrogate => mem_enclose (List.mem_map_of_mem hm) ?_,
        fun s hs c hc hsurrogate => mem_enclose (List.mem_map_of_mem hm) ?_⟩
    · rw [hstyle]
      exact List.mem_append_left _ (List.mem_append_left _ (mem_writeString hc hsurrogate))
    · exact List.mem_append_right _ (ih m hm (level + 1) s hs c hc hsurrogate)
  | null | bool | int | float => exact List.forall_mem_nil _

/-- Where not all is ASCII, what is written of a value has bytes only if its texts have. -/
theorem isUnicode_write_iff {style : Style} (hlawful : style.Lawful)
    (hstyle : style.asciiOnly = false) {v : Json} :
    (v.write style).IsUnicode ↔ ∀ s ∈ v.texts, s.IsUnicode := by
  refine ⟨fun h s hs c hc => ?_, fun h => ?_⟩
  · by_contra hnot
    have hsurrogate := Bool.eq_true_of_not_eq_false hnot
    exact hnot (h c (mem_writeAt hstyle v 0 s hs c hc hsurrogate))
  · exact forall_mem_write (fun _ => isSurrogate_of_lt) hlawful fun _ => h

end Json

end CompletionWire
