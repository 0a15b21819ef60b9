import CompletionWire.Proofs.Json.Parts
import CompletionWire.Proofs.Json.Scalars

/-!
# What readers return

A reader may be lenient about the names of numbers that are not finite. Whatever its rules, no object
that it returns has a key twice, whole numbers keep to its digits, and nothing nests deeper than it
may hold. So a value that was read lacks nothing but finite numbers to be written and read again.
-/

namespace CompletionWire

namespace Json

/-! ### Orderly values -/

/-- What a part itself is like in a value that was read: a whole number is within the digits that
are read, if they are limited, and no two members of an object have one key. -/
def IsOrdered (limit? : Option Nat) : Json → Prop
  | .int n => ∀ limit, limit? = some limit → n.natAbs < 10 ^ limit
  | .object ms => (ms.map Prod.fst).Nodup
  | _ => True

instance (limit? : Option Nat) : (v : Json) → Decidable (v.IsOrdered limit?)
  | .int n =>
    match limit? with
    | none => .isTrue nofun
    | some limit => decidable_of_iff (n.natAbs < 10 ^ limit) ⟨fun h _ heq => Option.some.inj heq ▸ h,
        fun h => h limit rfl⟩
  | .object ms => List.nodupDecidable (ms.map Prod.fst)
  | .null | .bool _ | .float _ | .string _ | .array _ => .isTrue trivial

/-- All parts of a value are as in a value that was read. -/
def Orderly (limit? : Option Nat) (v : Json) : Prop := ∀ p ∈ v.parts, p.IsOrdered limit?

instance (limit? : Option Nat) (v : Json) : Decidable (v.Orderly limit?) :=
  inferInstanceAs (Decidable (∀ p ∈ v.parts, p.IsOrdered limit?))

namespace Orderly

variable {limit? : Option Nat} {x : Json} {xs : List Json} {m : Text × Json} {ms : Members}

theorem keys (h : (object ms).Orderly limit?) : (ms.map Prod.fst).Nodup :=
  (forall_parts_object.1 h).1

theorem item (h : (array xs).Orderly limit?) (hx : x ∈ xs) : x.Orderly limit? :=
  (forall_parts_array.1 h).2 x hx

theorem member (h : (object ms).Orderly limit?) (hm : m ∈ ms) : m.2.Orderly limit? :=
  (forall_parts_object.1 h).2 m hm

theorem of_items (h : ∀ x ∈ xs, x.Orderly limit?) : (array xs).Orderly limit? :=
  forall_parts_array.2 ⟨trivial, h⟩

theorem of_members (hkeys : (ms.map Prod.fst).Nodup) (h : ∀ m ∈ ms, m.2.Orderly limit?) :
    (object ms).Orderly limit? :=
  forall_parts_object.2 ⟨hkeys, h⟩

end Orderly

theorem isFinite_eq_true_iff {v : Json} :
    v.isFinite = true ↔ ∀ p ∈ v.parts, ∀ x, p = .float x → x.isFinite = true := by
  induction v using inductParts with
  | float x => simp [isFinite, parts]
  | array xs ih =>
    rw [isFinite, itemsFinite_eq, List.all_eq_true, forall_parts_array, and_iff_right (by simp)]
    exact forall₂_congr ih
  | object ms ih =>
    rw [isFinite, membersFinite_eq, List.all_eq_true, forall_parts_object, and_iff_right (by simp)]
    exact forall₂_congr ih
  | null | bool | int | string => simp [isFinite, parts]

/-- An orderly value can be written and read again if all its numbers are finite. -/
theorem wellFormed_iff {maxDigits : Nat} {v : Json} :
    v.WellFormed maxDigits ↔ v.Orderly (some maxDigits) ∧ v.isFinite = true := by
  rw [WellFormed, Orderly, isFinite_eq_true_iff, ← forall₂_and]
  refine forall₂_congr fun p hp => ?_
  cases p <;> simp [IsPlain, IsOrdered]

/-! ### Members -/

theorem mem_of_mem_put {key : Text} {v : Json} {ms : Members} {m : Text × Json}
    (h : m ∈ Members.put key v ms) : m = (key, v) ∨ m ∈ ms := by
  induction ms with
  | nil => exact .inl (List.mem_singleton.1 h)
  | cons n ms ih =>
    rw [Members.put] at h
    split_ifs at h with hkey
    · rcases List.mem_cons.1 h with rfl | hms
      · exact .inl (by rw [← hkey])
      · exact .inr (.tail _ hms)
    · rcases List.mem_cons.1 h with rfl | hms
      · exact .inr (.head _)
      · exact (ih hms).imp_right (.tail _)

theorem nodup_put (key : Text) (v : Json) {ms : Members} (h : (ms.map Prod.fst).Nodup) :
    ((Members.put key v ms).map Prod.fst).Nodup := by
  induction ms with
  | nil => exact List.nodup_cons.2 ⟨List.not_mem_nil, List.nodup_nil⟩
  | cons n ms ih =>
    obtain ⟨hn, hms⟩ := List.nodup_cons.1 h
    rw [Members.put]
    split_ifs with hkey
    · exact h
    · refine List.nodup_cons.2 ⟨fun hmem => ?_, ih hms⟩
      obtain ⟨m, hm, hsame⟩ := List.mem_map.1 hmem
      rcases mem_of_mem_put hm with rfl | hm
      · exact hkey hsame.symm
      · exact hn (hsame ▸ List.mem_map_of_mem hm)

/-! ### Reading -/

/-- A value that a reader with these limits may return. -/
structure Fits (limit? : Option Nat) (depth : Nat) (v : Json) : Prop where
  orderly : v.Orderly limit?
  depth_le : v.depth ≤ depth

namespace Fits

variable {limit? : Option Nat} {depth : Nat} {v : Json} {xs : List Json} {m : Text × Json}
  {ms : Members}

theorem of_null (depth : Nat) : null.Fits limit? depth :=
  ⟨List.forall_mem_singleton.2 trivial, Nat.zero_le depth⟩

theorem of_bool (b : Bool) (depth : Nat) : (bool b).Fits limit? depth :=
  ⟨List.forall_mem_singleton.2 trivial, Nat.zero_le depth⟩

theorem of_int {n : Int} (h : ∀ limit, limit? = some limit → n.natAbs < 10 ^ limit) (depth : Nat) :
    (int n).Fits limit? depth :=
  ⟨List.forall_mem_singleton.2 h, Nat.zero_le depth⟩

theorem of_float (x : Binary64) (depth : Nat) : (float x).Fits limit? depth :=
  ⟨List.forall_mem_singleton.2 trivial, Nat.zero_le depth⟩

theorem of_string (s : Text) (depth : Nat) : (string s).Fits limit? depth :=
  ⟨List.forall_mem_singleton.2 trivial, Nat.zero_le depth⟩

theorem of_items (h : ∀ x ∈ xs, x.Fits limit? depth) : (array xs).Fits limit? (depth + 1) :=
  ⟨.of_items fun x hx => (h x hx).orderly,
    Nat.succ_le_succ (itemsDepth_le fun x hx => (h x hx).depth_le)⟩

theorem of_members (hkeys : (ms.map Prod.fst).Nodup) (h : ∀ m ∈ ms, m.2.Fits limit? depth) :
    (object ms).Fits limit? (depth + 1) :=
  ⟨.of_members hkeys fun m hm => (h m hm).orderly,
    Nat.succ_le_succ (membersDepth_le fun m hm => (h m hm).depth_le)⟩

theorem member (h : (object ms).Fits limit? (depth + 1)) (hm : m ∈ ms) : m.2.Fits limit? depth :=
  ⟨h.orderly.member hm, (depth_le_membersDepth hm).trans (Nat.le_of_succ_le_succ h.depth_le)⟩

theorem mono {more : Nat} (h : v.Fits limit? depth) (hmore : depth ≤ more) : v.Fits limit? more :=
  ⟨h.orderly, h.depth_le.trans hmore⟩

end Fits

namespace Reader

open Grammar

variable {limit? : Option Nat} {depth : Nat} {value : Text → Outcome Json}

def Holds (limit? : Option Nat) (depth : Nat) (value : Text → Outcome Json) : Prop :=
  ∀ t v rest, value t = .ok (v, rest) → v.Fits limit? depth

theorem fits_of_items (hvalue : Holds limit? depth value) {bound : Nat} {done : List Json}
    (hdone : ∀ x ∈ done, x.Fits limit? depth) {t rest : Text} {v : Json}
    (h : items value bound done t = .ok (v, rest)) : v.Fits limit? (depth + 1) := by
  fun_induction items value bound done t with
  | case4 bound done t u behind hread later hskip =>
    obtain ⟨rfl, -⟩ := Prod.mk.inj (Except.ok.inj h)
    refine .of_items fun x hx => ?_
    rw [List.mem_reverse] at hx
    exact List.forall_mem_cons.2 ⟨hvalue _ _ _ hread, hdone⟩ x hx
  | case5 bound done t u behind hread later hskip hclose ih =>
    exact ih (List.forall_mem_cons.2 ⟨hvalue _ _ _ hread, hdone⟩) h
  | case1 | case2 | case3 | case6 => cases h

theorem fits_of_members (hvalue : Holds limit? depth value) {bound : Nat} {done : Members}
    (hkeys : (done.map Prod.fst).Nodup) (hdone : ∀ m ∈ done, m.2.Fits limit? depth)
    {t rest : Text} {v : Json} (h : members value bound done t = .ok (v, rest)) :
    v.Fits limit? (depth + 1) := by
  have hput {done : Members} (hdone : ∀ m ∈ done, m.2.Fits limit? depth) {u : Json}
      (hu : u.Fits limit? depth) (k : Text) : ∀ m ∈ done.put k u, m.2.Fits limit? depth := by
    intro m hm
    rcases mem_of_mem_put hm with rfl | hm
    · exact hu
    · exact hdone m hm
  fun_induction members value bound done t with
  | case5 bound done t k atValue hkey u behind hread later hskip =>
    obtain ⟨rfl, -⟩ := Prod.mk.inj (Except.ok.inj h)
    exact .of_members (nodup_put k u hkeys) (hput hdone (hvalue _ _ _ hread) k)
  | case6 bound done t k atValue hkey u behind hread later hskip hclose ih =>
    exact ih (nodup_put k u hkeys) (hput hdone (hvalue _ _ _ hread) k) h
  | case1 | case2 | case3 | case4 | case7 => cases h

theorem fits_of_array (hvalue : Holds limit? depth value) {bound : Nat} {t rest : Text} {v : Json}
    (h : array value bound t = .ok (v, rest)) : v.Fits limit? (depth + 1) := by
  rcases array_cases value bound t with ⟨behind, -, harray⟩ | harray
  · obtain ⟨rfl, -⟩ := Prod.mk.inj (Except.ok.inj (harray.symm.trans h))
    exact .of_items fun x hx => nomatch hx
  · exact fits_of_items hvalue (List.forall_mem_nil _) (harray.symm.trans h)

theorem fits_of_object (hvalue : Holds limit? depth value) {bound : Nat} {t rest : Text} {v : Json}
    (h : object value bound t = .ok (v, rest)) : v.Fits limit? (depth + 1) := by
  rcases object_cases value bound t with ⟨behind, -, hobject⟩ | hobject
  · obtain ⟨rfl, -⟩ := Prod.mk.inj (Except.ok.inj (hobject.symm.trans h))
    exact .of_members List.nodup_nil fun m hm => nomatch hm
  · have hkeys : (([] : Members).map Prod.fst).Nodup := List.nodup_nil
    exact fits_of_members hvalue hkeys (List.forall_mem_nil _) (hobject.symm.trans h)

/-! ### Scalars -/

theorem number_lt {w : Text} (hw : ∀ c ∈ w, c.isAsciiDigit = true) :
    Grammar.number w < 10 ^ w.length := by
  have hdigits : ∀ d ∈ w.reverse.map fun c => c.val - 0x30, d < 10 := by
    intro d hd
    obtain ⟨c, hc, rfl⟩ := List.mem_map.1 hd
    have hdigit := hw c (List.mem_reverse.1 hc)
    rw [isAsciiDigit_iff] at hdigit
    omega
  have hlt := Nat.ofDigits_lt_base_pow_length (by decide) hdigits
  rwa [List.length_map, List.length_reverse] at hlt

theorem natAbs_signed (negative : Bool) (n : Nat) : (Numeral.signed negative n).natAbs = n := by
  cases negative <;> simp [Numeral.signed]

theorem fits_of_isNumber {w : Text} {v : Json} (h : IsNumber limit? w v) (depth : Nat) :
    v.Fits limit? depth := by
  cases h with
  | whole negative hw hlimit =>
    refine .of_int (fun limit hlimit' => ?_) depth
    rw [natAbs_signed]
    exact (number_lt hw.1.2).trans_le (Nat.pow_le_pow_right (by decide) (hlimit limit hlimit'))
  | fraction | exponent => exact .of_float _ depth

theorem fits_of_scalar {rules : Rules} {t rest : Text} {v : Json}
    (h : scalar rules t = .ok (v, rest)) (depth : Nat) : v.Fits rules.maxDigits? depth := by
  unfold scalar at h
  split at h
  · rename_i found hword
    obtain rfl : found = (v, rest) := Except.ok.inj h
    have hscalar : ∃ w, IsScalar rules.maxDigits? w v ∧ t = w ++ rest := isScalar_of_word? hword
    obtain ⟨w, hw, -⟩ := hscalar
    cases hw with
    | number h => exact fits_of_isNumber h depth
    | null => exact .of_null depth
    | true | false => exact .of_bool _ depth
    | string => exact .of_string _ depth
  · split at h
    · split_ifs at h
      obtain ⟨rfl, -⟩ := Prod.mk.inj (Except.ok.inj h)
      exact .of_float _ depth
    · obtain ⟨w, hw, -⟩ := exists_isNumber_of_number h
      exact fits_of_isNumber hw depth

/-! ### Values -/

theorem holds_of_nested {rules : Rules} {bound depth : Nat}
    (hnested : ∀ d, depth = d + 1 → Holds rules.maxDigits? d (Reader.value rules bound d)) :
    Holds rules.maxDigits? depth (Reader.value rules bound depth) := by
  intro t v rest h
  rcases value_cases rules bound depth t with hvalue | ⟨t, rfl⟩ | ⟨t, rfl⟩ | ⟨t, rfl⟩ | hvalue
  · rw [hvalue] at h
    cases h
  · rw [value_doubleQuote] at h
    cases hstring : string (Text.doubleQuote :: t) {} t with
    | error fault =>
      rw [hstring] at h
      cases h
    | ok found =>
      rw [hstring] at h
      obtain ⟨rfl, -⟩ := Prod.mk.inj (Except.ok.inj h)
      exact .of_string _ depth
  · rw [value_bracket] at h
    cases depth with
    | zero => cases h
    | succ d => exact fits_of_array (hnested d rfl) h
  · rw [value_brace] at h
    cases depth with
    | zero => cases h
    | succ d => exact fits_of_object (hnested d rfl) h
  · rw [hvalue] at h
    exact fits_of_scalar h depth

/-- What is read nests no deeper than the reader may hold. -/
theorem holds_value (rules : Rules) (bound depth : Nat) :
    Holds rules.maxDigits? depth (Reader.value rules bound depth) := by
  induction depth with
  | zero => exact holds_of_nested fun _ h => nomatch h
  | succ depth ih => exact holds_of_nested fun _ h => Nat.succ.inj h ▸ ih

end Reader

/-- What is read of a whole text keeps to the limits of the reader, lenient or not. -/
theorem fits_of_read {rules : Rules} {t : Text} {v : Json} (h : read rules t = .ok v) :
    v.Fits rules.maxDigits? rules.maxDepth := by
  rw [read] at h
  cases hdocument : Reader.document rules t with
  | error fault =>
    rw [hdocument] at h
    cases h
  | ok u =>
    rw [hdocument] at h
    obtain rfl := Except.ok.inj h
    unfold Reader.document at hdocument
    split_ifs at hdocument
    split at hdocument
    · cases hdocument
    · rename_i w rest hvalue
      split at hdocument
      · exact Except.ok.inj hdocument ▸ Reader.holds_value rules _ _ _ _ _ hvalue
      · cases hdocument

end Json

end CompletionWire
