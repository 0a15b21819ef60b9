import CompletionWire.Proofs.Json.Alphabet

/-!
# Writing again what was read

A value that is written in ASCII and read again may come back changed, with one code point in the
place of two surrogates. It is written as before all the same, since that code point is written by
the numbers of the very same surrogates. What is written is printable ASCII, and line ends where the
style has them, so that nothing happens to it on its way through a text file.
-/

namespace CompletionWire

/-! ### Joined surrogates -/

namespace CodePoint

variable {high low : CodePoint}

theorem val_joinSurrogates (hhigh : high.isHighSurrogate = true)
    (hlow : low.isLowSurrogate = true) :
    (joinSurrogates high low).val =
      0x10000 + (high.val - 0xD800) * 0x400 + (low.val - 0xDC00) := by
  simp only [isHighSurrogate, isLowSurrogate, Bool.and_eq_true, decide_eq_true_eq] at hhigh hlow
  exact val_ofNat (by omega)

theorem splitSurrogates_joinSurrogates (hhigh : high.isHighSurrogate = true)
    (hlow : low.isLowSurrogate = true) :
    (joinSurrogates high low).splitSurrogates = (high, low) := by
  rw [splitSurrogates, val_joinSurrogates hhigh hlow]
  simp only [isHighSurrogate, isLowSurrogate, Bool.and_eq_true, decide_eq_true_eq] at hhigh hlow
  have hfirst : 0xD800 +
      (0x10000 + (high.val - 0xD800) * 0x400 + (low.val - 0xDC00) - 0x10000) / 0x400 =
        high.val := by omega
  have hsecond : 0xDC00 +
      (0x10000 + (high.val - 0xD800) * 0x400 + (low.val - 0xDC00) - 0x10000) % 0x400 =
        low.val := by omega
  rw [hfirst, hsecond, ofNat_val, ofNat_val]

end CodePoint

namespace Json

theorem escapeLetter?_of_lt {c : CodePoint} (hc : 0xD < c.val) : escapeLetter? c = none := by
  rw [escapeLetter?, if_neg (by omega), if_neg (by omega), if_neg (by omega), if_neg (by omega),
    if_neg (by omega)]

theorem writeCodePoint_of_le {c : CodePoint} (hc : 0x80 ≤ c.val) :
    writeCodePoint true c =
      if c.val < 0x10000 then unicodeEscape c
      else unicodeEscape c.splitSurrogates.1 ++ unicodeEscape c.splitSurrogates.2 := by
  rw [writeCodePoint, if_neg (by omega), escapeLetter?_of_lt (by omega)]
  simp only [Bool.not_true, Bool.false_or, decide_eq_true_eq]
  rw [if_neg (by omega), if_neg (by omega)]

theorem writeCodePoint_joinSurrogates {high low : CodePoint}
    (hhigh : high.isHighSurrogate = true) (hlow : low.isLowSurrogate = true) :
    writeCodePoint true (CodePoint.joinSurrogates high low) =
      writeCodePoint true high ++ writeCodePoint true low := by
  have hjoined := CodePoint.val_joinSurrogates hhigh hlow
  have hsplit := CodePoint.splitSurrogates_joinSurrogates hhigh hlow
  have hhighPlane := Grammar.val_lt_of_surrogate (.inl hhigh)
  have hlowPlane := Grammar.val_lt_of_surrogate (.inr hlow)
  simp only [CodePoint.isHighSurrogate, CodePoint.isLowSurrogate, Bool.and_eq_true,
    decide_eq_true_eq] at hhigh hlow
  rw [writeCodePoint_of_le (by omega), writeCodePoint_of_le (c := high) (by omega),
    writeCodePoint_of_le (c := low) (by omega), if_neg (by omega), if_pos hhighPlane,
    if_pos hlowPlane, hsplit]

theorem writeString_joined (s : Text) : writeString true s.joined = writeString true s := by
  have hunits : s.joined.flatMap (writeCodePoint true) = s.flatMap (writeCodePoint true) := by
    fun_induction Text.joined s with
    | case1 | case2 c => rfl
    | case3 c d rest hpair ih =>
      rw [List.flatMap_cons, ih, writeCodePoint_joinSurrogates hpair.1 hpair.2,
        List.append_assoc, List.flatMap_cons, List.flatMap_cons]
    | case4 c d rest hpair ih =>
      rw [List.flatMap_cons, ih]
      rfl
  rw [writeString, writeString, hunits]

/-- No two keys of the object that a part is become one when their surrogate pairs are joined. -/
def IsApart : Json → Prop
  | .object ms => (ms.map fun m => m.1.joined).Nodup
  | _ => True

/-- No two keys of one object in a value become one when their surrogate pairs are joined. -/
def KeysStayApart (v : Json) : Prop := ∀ p ∈ v.parts, p.IsApart

namespace KeysStayApart

variable {x : Json} {xs : List Json} {m : Text × Json} {ms : Members}

theorem item (h : (array xs).KeysStayApart) (hx : x ∈ xs) : x.KeysStayApart :=
  fun p hp => h p (mem_parts_of_item hx hp)

theorem member (h : (object ms).KeysStayApart) (hm : m ∈ ms) : m.2.KeysStayApart :=
  fun p hp => h p (mem_parts_of_member hm hp)

theorem of_string (s : Text) : (string s).KeysStayApart := List.forall_mem_singleton.2 trivial

theorem of_items (h : ∀ x ∈ xs, x.KeysStayApart) : (array xs).KeysStayApart :=
  forall_parts_array.2 ⟨trivial, h⟩

theorem of_members (hkeys : (ms.map fun m => m.1.joined).Nodup)
    (h : ∀ m ∈ ms, m.2.KeysStayApart) : (object ms).KeysStayApart :=
  forall_parts_object.2 ⟨hkeys, h⟩

theorem collect_mapMembers (h : (object ms).KeysStayApart) :
    Grammar.collect [] (mapMembers Text.joined ms) = mapMembers Text.joined ms := by
  have hkeys : (ms.map fun m => m.1.joined).Nodup := h _ (self_mem_parts _)
  refine collect_of_nodup ?_
  rwa [List.nil_append, mapMembers_eq, List.map_map]

end KeysStayApart

/-- A value whose surrogate pairs are joined is written in ASCII as it was before. -/
theorem writeAt_mapTexts_joined {style : Style} (hascii : style.asciiOnly = true) {v : Json}
    (hkeys : v.KeysStayApart) (level : Nat) :
    writeAt style level (v.mapTexts Text.joined) = writeAt style level v := by
  induction v using inductParts generalizing level with
  | string s => rw [mapTexts, writeAt, writeAt, hascii, writeString_joined]
  | array xs ih =>
    rw [mapTexts, mapItems_eq, writeAt, writeAt, writeItems_eq, writeItems_eq, List.map_map]
    have hitems : xs.map (writeAt style (level + 1) ∘ mapTexts Text.joined) =
        xs.map (writeAt style (level + 1)) :=
      List.map_congr_left fun x hx => ih x hx (hkeys.item hx) (level + 1)
    rw [hitems]
  | object ms ih =>
    rw [mapTexts, hkeys.collect_mapMembers, mapMembers_eq, writeAt, writeAt, writeMembers_eq,
      writeMembers_eq, List.map_map]
    have hmembers : ∀ m ∈ ms, writeString style.asciiOnly m.1.joined ++ style.colon ++
        writeAt style (level + 1) (m.2.mapTexts Text.joined) =
        writeString style.asciiOnly m.1 ++ style.colon ++ writeAt style (level + 1) m.2 := by
      intro m hm
      rw [hascii, writeString_joined, ih m hm (hkeys.member hm) (level + 1)]
    exact congrArg _ (List.map_congr_left hmembers)
  | null | bool | int | float => rfl

/-! ### What a document is written in -/

/-- What a style may put down, printable ASCII apart: its commas, colons and line ends. -/
structure Style.Uses (style : Style) (P : CodePoint → Prop) : Prop where
  printable : ∀ c : CodePoint, 0x20 ≤ c.val → c.val < 0x80 → P c
  comma : ∀ c ∈ style.comma, P c
  colon : ∀ c ∈ style.colon, P c
  breakLine : ∀ level, ∀ c ∈ style.breakLine level, P c

namespace Style.Uses

variable {style : Style} {P : CodePoint → Prop} (hP : style.Uses P)

include hP

theorem of_decide {w : Text} (h : ∀ c ∈ w, 0x20 ≤ c.val ∧ c.val < 0x80) : ∀ c ∈ w, P c :=
  fun c hc => hP.printable c (h c hc).1 (h c hc).2

theorem number {limit? : Option Nat} {w : Text} {v : Json} (h : Grammar.IsNumber limit? w v) :
    ∀ c ∈ w, P c := by
  refine Grammar.forall_mem_of_isNumber h (fun c hdigit => ?_) (hP.of_decide (by decide))
  rw [Grammar.isAsciiDigit_iff] at hdigit
  exact hP.printable c (by omega) (by omega)

theorem float (x : Binary64) : ∀ c ∈ x.write .long, P c := by
  cases x with
  | nan => exact hP.of_decide (by decide)
  | infinity negative => cases negative <;> exact hP.of_decide (by decide)
  | finite negative rank =>
    have hfinite : (Binary64.finite negative rank).isFinite = true := rfl
    have hnumber : Grammar.IsNumber none ((Binary64.finite negative rank).write .long) _ :=
      Grammar.isNumber_write hfinite
    exact hP.number hnumber

theorem enclose {level : Nat} {opening closing : Char}
    (hmarks : ∀ c ∈ [CodePoint.ofChar opening, CodePoint.ofChar closing], P c) {ws : List Text}
    (h : ∀ w ∈ ws, ∀ c ∈ w, P c) : ∀ c ∈ enclose style level opening closing ws, P c := by
  obtain ⟨hopening, hclosing⟩ := List.forall_mem_cons.1 hmarks
  rcases eq_or_ne ws [] with rfl | hne
  · exact List.forall_mem_cons.2 ⟨hopening, hclosing⟩
  · have hseparator := List.forall_mem_append.2 ⟨hP.comma, hP.breakLine (level + 1)⟩
    have hjoined := joined_of_append (Q := fun w => ∀ c ∈ w, P c)
      (fun ha hb => List.forall_mem_append.2 ⟨ha, hb⟩) hseparator (hP.breakLine level) h
    have hitems := List.forall_mem_append.2 ⟨hP.breakLine (level + 1), hjoined⟩
    rw [enclose_of_ne_nil _ _ _ _ hne]
    exact List.forall_mem_cons.2 ⟨hopening, List.forall_mem_append.2 ⟨hitems, hclosing⟩⟩

theorem writeAt (hascii : style.asciiOnly = true) (v : Json) (level : Nat) :
    ∀ c ∈ writeAt style level v, P c := by
  have hstring (s : Text) : ∀ c ∈ writeString style.asciiOnly s, P c :=
    forall_mem_writeString hP.printable fun h => absurd (hascii.symm.trans h) (by decide)
  induction v using inductParts generalizing level with
  | null => exact hP.of_decide (w := text "null") (by decide)
  | bool b =>
    cases b
    · exact hP.of_decide (w := text "false") (by decide)
    · exact hP.of_decide (w := text "true") (by decide)
  | int n =>
    have hnumber : Grammar.IsNumber none (Text.ofInt n) (.int n) :=
      Grammar.isNumber_ofInt fun _ hlimit => nomatch hlimit
    exact hP.number hnumber
  | float x => exact hP.float x
  | string s => exact hstring s
  | array xs ih =>
    rw [Json.writeAt, writeItems_eq]
    exact hP.enclose (hP.of_decide (by decide))
      (List.forall_mem_map.2 fun x hx => ih x hx (level + 1))
  | object ms ih =>
    rw [Json.writeAt, writeMembers_eq]
    refine hP.enclose (hP.of_decide (by decide)) (List.forall_mem_map.2 fun m hm => ?_)
    exact List.forall_mem_append.2
      ⟨List.forall_mem_append.2 ⟨hstring m.1, hP.colon⟩, ih m hm (level + 1)⟩

end Style.Uses

def IsDocumentCodePoint (c : CodePoint) : Prop := c = .lineFeed ∨ 0x20 ≤ c.val ∧ c.val < 0x80

theorem uses_indented : Style.indented.Uses IsDocumentCodePoint where
  printable _ hlow hhigh := .inr ⟨hlow, hhigh⟩
  comma := List.forall_mem_singleton.2 (.inr (by decide))
  colon c hc := .inr ((by decide : ∀ c ∈ text ": ", 0x20 ≤ c.val ∧ c.val < 0x80) c hc)
  breakLine level := by
    refine List.forall_mem_cons.2 ⟨.inl rfl, fun c hc => .inr ?_⟩
    rw [(List.mem_replicate.1 hc).2]
    decide

end Json

end CompletionWire
