import CompletionWire.Proofs.Json.Grammar

/-!
# The parts of a value

A value has parts: itself, the items of its arrays and the values of its objects' members, at every
depth. What is asked of a value that is to be written and read again is asked of each part, and
what comes back differs from it in its texts only, if at all.
-/

namespace CompletionWire

namespace Json

/-- Induction on a value, with the claim for all items of an array and all members of an object. -/
@[elab_as_elim]
theorem inductParts {motive : Json → Prop} (null : motive .null) (bool : ∀ b, motive (.bool b))
    (int : ∀ n, motive (.int n)) (float : ∀ x, motive (.float x)) (string : ∀ s, motive (.string s))
    (array : ∀ xs, (∀ x ∈ xs, motive x) → motive (.array xs))
    (object : ∀ ms, (∀ m ∈ ms, motive m.2) → motive (.object ms)) (v : Json) : motive v :=
  @Json.rec motive (fun xs => ∀ x ∈ xs, motive x) (fun ms => ∀ m ∈ ms, motive m.2)
    (fun m => motive m.2) null bool int float string array object
    (fun _ h => nomatch h) (fun _ _ hx hxs => List.forall_mem_cons.2 ⟨hx, hxs⟩)
    (fun _ h => nomatch h) (fun _ _ hm hms => List.forall_mem_cons.2 ⟨hm, hms⟩)
    (fun _ _ hv => hv) v

/-! ### Parts -/

mutual

/-- The value itself and all values in it. -/
def parts : Json → List Json
  | .array xs => .array xs :: itemsParts xs
  | .object ms => .object ms :: membersParts ms
  | v => [v]

def itemsParts : List Json → List Json
  | [] => []
  | x :: xs => x.parts ++ itemsParts xs

def membersParts : List (Text × Json) → List Json
  | [] => []
  | (_, v) :: ms => v.parts ++ membersParts ms

end

theorem itemsParts_eq (xs : List Json) : itemsParts xs = xs.flatMap parts := by
  induction xs with
  | nil => rfl
  | cons x xs ih => rw [itemsParts, ih, List.flatMap_cons]

theorem membersParts_eq (ms : Members) : membersParts ms = ms.flatMap (·.2.parts) := by
  induction ms with
  | nil => rfl
  | cons m ms ih => rw [membersParts, ih, List.flatMap_cons]

theorem self_mem_parts (v : Json) : v ∈ v.parts := by
  cases v <;> simp [parts]

theorem mem_parts_of_item {x v : Json} {xs : List Json} (hx : x ∈ xs) (hv : v ∈ x.parts) :
    v ∈ (array xs).parts := by
  rw [parts, itemsParts_eq]
  exact List.mem_cons_of_mem _ (List.mem_flatMap.2 ⟨x, hx, hv⟩)

theorem mem_parts_of_member {m : Text × Json} {v : Json} {ms : Members} (hm : m ∈ ms)
    (hv : v ∈ m.2.parts) : v ∈ (object ms).parts := by
  rw [parts, membersParts_eq]
  exact List.mem_cons_of_mem _ (List.mem_flatMap.2 ⟨m, hm, hv⟩)

theorem forall_parts_array {P : Json → Prop} {xs : List Json} :
    (∀ p ∈ (array xs).parts, P p) ↔ P (array xs) ∧ ∀ x ∈ xs, ∀ p ∈ x.parts, P p := by
  rw [parts, itemsParts_eq, List.forall_mem_cons, List.forall_mem_flatMap]

theorem forall_parts_object {P : Json → Prop} {ms : Members} :
    (∀ p ∈ (object ms).parts, P p) ↔ P (object ms) ∧ ∀ m ∈ ms, ∀ p ∈ m.2.parts, P p := by
  rw [parts, membersParts_eq, List.forall_mem_cons, List.forall_mem_flatMap]

/-! ### What every part has to be -/

/-- What a part itself has to be in order to have a text that is read again: a whole number is
within the digits that are read, a binary64 number is finite, and no two members of an object have
one key. -/
def IsPlain (maxDigits : Nat) : Json → Prop
  | .int n => n.natAbs < 10 ^ maxDigits
  | .float x => x.isFinite = true
  | .object ms => (ms.map Prod.fst).Nodup
  | _ => True

/-- All parts of a value have a text that is read again. -/
def WellFormed (maxDigits : Nat) (v : Json) : Prop := ∀ p ∈ v.parts, p.IsPlain maxDigits

theorem itemsFinite_eq (xs : List Json) : itemsFinite xs = xs.all isFinite := by
  induction xs with
  | nil => rfl
  | cons x xs ih => rw [itemsFinite, ih, List.all_cons]

theorem membersFinite_eq (ms : Members) : membersFinite ms = ms.all (·.2.isFinite) := by
  induction ms with
  | nil => rfl
  | cons m ms ih => rw [membersFinite, ih, List.all_cons]

namespace WellFormed

variable {maxDigits : Nat} {v x : Json} {xs : List Json} {m : Text × Json} {ms : Members}

theorem self (h : v.WellFormed maxDigits) : v.IsPlain maxDigits := h v v.self_mem_parts

theorem item (h : (array xs).WellFormed maxDigits) (hx : x ∈ xs) : x.WellFormed maxDigits :=
  fun p hp => h p (mem_parts_of_item hx hp)

theorem member (h : (object ms).WellFormed maxDigits) (hm : m ∈ ms) : m.2.WellFormed maxDigits :=
  fun p hp => h p (mem_parts_of_member hm hp)

theorem of_items (h : ∀ x ∈ xs, x.WellFormed maxDigits) : (array xs).WellFormed maxDigits :=
  forall_parts_array.2 ⟨trivial, h⟩

theorem of_members (hkeys : (ms.map Prod.fst).Nodup) (h : ∀ m ∈ ms, m.2.WellFormed maxDigits) :
    (object ms).WellFormed maxDigits :=
  forall_parts_object.2 ⟨hkeys, h⟩

theorem isFinite (h : v.WellFormed maxDigits) : v.isFinite = true := by
  induction v using inductParts with
  | float x => exact h.self
  | array xs ih =>
    rw [Json.isFinite, itemsFinite_eq, List.all_eq_true]
    exact fun x hx => ih x hx (h.item hx)
  | object ms ih =>
    rw [Json.isFinite, membersFinite_eq, List.all_eq_true]
    exact fun m hm => ih m hm (h.member hm)
  | null | bool | int | string => rfl

end WellFormed

/-! ### Texts -/

def ownTexts : Json → List Text
  | .string s => [s]
  | .object ms => ms.map Prod.fst
  | _ => []

/-- All texts in a value: its strings and the keys of its objects. -/
def texts (v : Json) : List Text := v.parts.flatMap ownTexts

theorem texts_string (s : Text) : (string s).texts = [s] := rfl

theorem forall_texts_array {P : Text → Prop} {xs : List Json} :
    (∀ s ∈ (array xs).texts, P s) ↔ ∀ x ∈ xs, ∀ s ∈ x.texts, P s := by
  have htexts : (array xs).texts = xs.flatMap texts := by
    rw [texts, parts, itemsParts_eq, List.flatMap_cons, List.flatMap_assoc]
    rfl
  rw [htexts, List.forall_mem_flatMap]

theorem forall_texts_object {P : Text → Prop} {ms : Members} :
    (∀ s ∈ (object ms).texts, P s) ↔ ∀ m ∈ ms, P m.1 ∧ ∀ s ∈ m.2.texts, P s := by
  have htexts : (object ms).texts = ms.map Prod.fst ++ ms.flatMap (·.2.texts) := by
    rw [texts, parts, membersParts_eq, List.flatMap_cons, List.flatMap_assoc]
    rfl
  rw [htexts, List.forall_mem_append, List.forall_mem_map, List.forall_mem_flatMap]
  exact forall₂_and.symm

/-! ### Depth -/

mutual

/-- How many arrays and objects stand inside each other. -/
def depth : Json → Nat
  | .array xs => itemsDepth xs + 1
  | .object ms => membersDepth ms + 1
  | _ => 0

def itemsDepth : List Json → Nat
  | [] => 0
  | x :: xs => max x.depth (itemsDepth xs)

def membersDepth : List (Text × Json) → Nat
  | [] => 0
  | (_, v) :: ms => max v.depth (membersDepth ms)

end

theorem depth_le_itemsDepth {x : Json} {xs : List Json} (hx : x ∈ xs) :
    x.depth ≤ itemsDepth xs := by
  induction hx with
  | head xs => exact Nat.le_max_left _ _
  | tail y _ ih => exact ih.trans (Nat.le_max_right _ _)

theorem depth_le_membersDepth {m : Text × Json} {ms : Members} (hm : m ∈ ms) :
    m.2.depth ≤ membersDepth ms := by
  induction hm with
  | head ms => exact Nat.le_max_left _ _
  | tail n _ ih => exact ih.trans (Nat.le_max_right _ _)

theorem itemsDepth_le {xs : List Json} {n : Nat} (h : ∀ x ∈ xs, x.depth ≤ n) :
    itemsDepth xs ≤ n := by
  induction xs with
  | nil => exact Nat.zero_le n
  | cons x xs ih =>
    obtain ⟨hx, hxs⟩ := List.forall_mem_cons.1 h
    exact Nat.max_le.2 ⟨hx, ih hxs⟩

theorem membersDepth_le {ms : Members} {n : Nat} (h : ∀ m ∈ ms, m.2.depth ≤ n) :
    membersDepth ms ≤ n := by
  induction ms with
  | nil => exact Nat.zero_le n
  | cons m ms ih =>
    obtain ⟨hm, hms⟩ := List.forall_mem_cons.1 h
    exact Nat.max_le.2 ⟨hm, ih hms⟩

/-! ### Changing texts -/

open Grammar (collect)

mutual

/-- The value with every text changed. Where this makes two keys of an object one, the last of their
members counts. -/
def mapTexts (f : Text → Text) : Json → Json
  | .string s => .string (f s)
  | .array xs => .array (mapItems f xs)
  | .object ms => .object (collect [] (mapMembers f ms))
  | v => v

def mapItems (f : Text → Text) : List Json → List Json
  | [] => []
  | x :: xs => x.mapTexts f :: mapItems f xs

def mapMembers (f : Text → Text) : List (Text × Json) → Members
  | [] => []
  | (k, v) :: ms => (f k, v.mapTexts f) :: mapMembers f ms

end

variable {f : Text → Text}

theorem mapItems_eq (xs : List Json) : mapItems f xs = xs.map (mapTexts f) := by
  induction xs with
  | nil => rfl
  | cons x xs ih => rw [mapItems, ih, List.map_cons]

theorem mapMembers_eq (ms : Members) :
    mapMembers f ms = ms.map fun m => (f m.1, m.2.mapTexts f) := by
  induction ms with
  | nil => rfl
  | cons m ms ih => rw [mapMembers, ih, List.map_cons]

theorem put_of_not_mem {key : Text} {ms : Members} (h : key ∉ ms.map Prod.fst) (v : Json) :
    Members.put key v ms = ms ++ [(key, v)] := by
  induction ms with
  | nil => rfl
  | cons m ms ih =>
    rw [List.map_cons, List.mem_cons, not_or] at h
    rw [Members.put, if_neg (Ne.symm h.1), ih h.2, List.cons_append]

theorem length_put_of_mem {key : Text} {ms : Members} (h : key ∈ ms.map Prod.fst) (v : Json) :
    (Members.put key v ms).length = ms.length := by
  induction ms with
  | nil => cases h
  | cons m ms ih =>
    rw [Members.put]
    split_ifs with hkey
    · rfl
    · rw [List.map_cons, List.mem_cons] at h
      rw [List.length_cons, ih (h.resolve_left (Ne.symm hkey)), List.length_cons]

/-- Members are collected as they are if none of them is lost, and that is so if their keys are
new. -/
theorem length_collect_le (done ms : Members) :
    (collect done ms).length ≤ done.length + ms.length := by
  induction ms generalizing done with
  | nil => exact Nat.le_refl _
  | cons m ms ih =>
    refine (ih _).trans ?_
    by_cases hm : m.1 ∈ done.map Prod.fst
    · simp only [length_put_of_mem hm, List.length_cons]
      omega
    · simp only [put_of_not_mem hm, List.length_cons, List.length_append, List.length_nil]
      omega

theorem collect_eq_append_of_length {done ms : Members}
    (h : (collect done ms).length = done.length + ms.length) : collect done ms = done ++ ms := by
  induction ms generalizing done with
  | nil => exact (List.append_nil done).symm
  | cons m ms ih =>
    have hle := length_collect_le (Members.put m.1 m.2 done) ms
    change (collect (Members.put m.1 m.2 done) ms).length = _ at h
    by_cases hm : m.1 ∈ done.map Prod.fst
    · rw [length_put_of_mem hm] at hle
      rw [List.length_cons] at h
      omega
    · have hput := put_of_not_mem hm m.2
      have hlength : (done ++ [(m.1, m.2)]).length + ms.length = done.length + (m :: ms).length := by
        simp only [List.length_append, List.length_cons, List.length_nil]
        omega
      change collect (Members.put m.1 m.2 done) ms = _
      rw [hput] at h ⊢
      rw [ih (h.trans hlength.symm), List.append_assoc]
      rfl

theorem collect_of_nodup {done ms : Members} (h : ((done ++ ms).map Prod.fst).Nodup) :
    collect done ms = done ++ ms := by
  induction ms generalizing done with
  | nil => exact (List.append_nil done).symm
  | cons m ms ih =>
    have hm : m.1 ∉ done.map Prod.fst := by
      rw [List.map_append, List.nodup_append] at h
      exact fun hmem => h.2.2 _ hmem _ List.mem_cons_self rfl
    change collect (Members.put m.1 m.2 done) ms = _
    rw [put_of_not_mem hm, ih (by rwa [List.append_assoc]), List.append_assoc]
    rfl

theorem map_eq_self_iff {α : Type} {g : α → α} {l : List α} :
    l.map g = l ↔ ∀ a ∈ l, g a = a := by
  have hid := List.map_inj_left (f := g) (g := id) (l := l)
  rwa [List.map_id] at hid

theorem collect_map_eq_self_iff {ms : Members} (h : (ms.map Prod.fst).Nodup)
    (g : Text × Json → Text × Json) : collect [] (ms.map g) = ms ↔ ∀ m ∈ ms, g m = m := by
  rw [← map_eq_self_iff]
  constructor
  · intro hcollect
    have hlength : (collect [] (ms.map g)).length = ([] : Members).length + (ms.map g).length := by
      rw [hcollect, List.length_map, List.length_nil, Nat.zero_add]
    exact (collect_eq_append_of_length hlength).symm.trans hcollect
  · intro hmap
    rw [hmap]
    exact collect_of_nodup h

/-- A value whose texts are changed is the same only if each text is. -/
theorem mapTexts_eq_self_iff {maxDigits : Nat} {v : Json} (hv : v.WellFormed maxDigits) :
    v.mapTexts f = v ↔ ∀ s ∈ v.texts, f s = s := by
  induction v using inductParts with
  | string s => rw [mapTexts, string.injEq, texts_string, List.forall_mem_singleton]
  | array xs ih =>
    rw [mapTexts, array.injEq, mapItems_eq, map_eq_self_iff, forall_texts_array]
    exact forall₂_congr fun x hx => ih x hx (hv.item hx)
  | object ms ih =>
    rw [mapTexts, object.injEq, mapMembers_eq, collect_map_eq_self_iff hv.self,
      forall_texts_object]
    refine forall₂_congr fun m hm => ?_
    rw [Prod.ext_iff, ih m hm (hv.member hm)]
  | null | bool | int | float => exact iff_of_true rfl fun s hs => nomatch hs

end Json

end CompletionWire
