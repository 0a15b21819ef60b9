import CompletionWire.Json.Writer
import CompletionWire.Proofs.Json.Readings

/-!
# What a strict writer refuses

A strict writer writes a value if its numbers are finite, its whole numbers have few enough digits
and it does not nest too deep. These are asked of the parts of a value one after the other, in the
order in which they are written, and the first part that fails makes the fault.
-/

namespace CompletionWire

namespace Json

def HoldsNonFinite (v : Json) : Prop := ∃ x, float x ∈ v.parts ∧ x.isFinite = false

/-- A part that is no whole number of more than so many digits. -/
def IsShort (maxDigits : Nat) : Json → Prop
  | .int n => n.natAbs < 10 ^ maxDigits
  | _ => True

/-- A value whose whole numbers and nesting are within a writer's limits. -/
structure IsWithin (limits : Limits) (v : Json) : Prop where
  isShort : ∀ p ∈ v.parts, p.IsShort limits.maxDigits
  depth_le : v.depth ≤ limits.maxDepth

/-- A value that a strict writer writes. -/
structure IsWritable (limits : Limits) (v : Json) : Prop extends v.IsWithin limits where
  isFinite : v.isFinite = true

theorem isFinite_eq_false_iff {v : Json} : v.isFinite = false ↔ v.HoldsNonFinite := by
  rw [← Bool.not_eq_true, isFinite_eq_true_iff, HoldsNonFinite]
  constructor
  · intro h
    push Not at h
    obtain ⟨p, hp, x, rfl, hx⟩ := h
    exact ⟨x, hp, Bool.eq_false_of_not_eq_true hx⟩
  · rintro ⟨x, hp, hx⟩ h
    exact absurd (h _ hp x rfl) (Bool.eq_false_iff.1 hx)

theorem IsWritable.of_wellFormed {limits : Limits} {v : Json} (hv : v.WellFormed limits.maxDigits)
    (hdepth : v.depth ≤ limits.maxDepth) : v.IsWritable limits := by
  refine ⟨⟨fun p hp => ?_, hdepth⟩, hv.isFinite⟩
  cases p with
  | int n => exact hv _ hp
  | null | bool | float | string | array | object => trivial

/-! ### Places -/

theorem placedItems_eq (level : Nat) (xs : List Json) :
    placedItems level xs = xs.flatMap (placed level) := by
  induction xs with
  | nil => rfl
  | cons x xs ih => rw [placedItems, ih, List.flatMap_cons]

theorem placedMembers_eq (level : Nat) (ms : Members) :
    placedMembers level ms = placedItems level (ms.map Prod.snd) := by
  induction ms with
  | nil => rfl
  | cons m ms ih => rw [placedMembers, ih, List.map_cons, placedItems]

theorem map_snd_placed (v : Json) (level : Nat) : (v.placed level).map Prod.snd = v.parts := by
  induction v using inductParts generalizing level with
  | array xs ih =>
    rw [placed, parts, List.map_cons, placedItems_eq, itemsParts_eq, List.map_flatMap,
      List.flatMap_def, List.flatMap_def, List.map_congr_left fun x hx => ih x hx (level + 1)]
  | object ms ih =>
    rw [placed, parts, List.map_cons, placedMembers_eq, placedItems_eq, membersParts_eq,
      List.flatMap_map, List.map_flatMap, List.flatMap_def, List.flatMap_def,
      List.map_congr_left fun m hm => ih m hm (level + 1)]
  | null | bool | int | float | string => rfl

theorem itemsDepth_le_iff {xs : List Json} {n : Nat} :
    itemsDepth xs ≤ n ↔ ∀ x ∈ xs, x.depth ≤ n :=
  ⟨fun h _ hx => (depth_le_itemsDepth hx).trans h, itemsDepth_le⟩

theorem membersDepth_le_iff {ms : Members} {n : Nat} :
    membersDepth ms ≤ n ↔ ∀ m ∈ ms, m.2.depth ≤ n :=
  ⟨fun h _ hm => (depth_le_membersDepth hm).trans h, membersDepth_le⟩

/-- No array or object in a value at a level stands within as many others as the limit. -/
def IsPlacedBelow (limit level : Nat) (v : Json) : Prop :=
  ∀ p ∈ v.placed level, 0 < p.2.depth → p.1 < limit

theorem isPlacedBelow_of_items {limit level : Nat} {v : Json} {xs : List Json}
    (hplaced : v.placed level = (level, v) :: placedItems (level + 1) xs)
    (hdepth : ∀ n, v.depth ≤ n + 1 ↔ ∀ x ∈ xs, x.depth ≤ n) (hpos : 0 < v.depth)
    (ih : ∀ x ∈ xs, ∀ level ≤ limit, IsPlacedBelow limit level x ↔ level + x.depth ≤ limit) :
    IsPlacedBelow limit level v ↔ level + v.depth ≤ limit := by
  rw [IsPlacedBelow, hplaced, placedItems_eq, List.forall_mem_cons, List.forall_mem_flatMap]
  by_cases hlt : level < limit
  · obtain ⟨n, rfl⟩ := Nat.exists_eq_add_of_lt hlt
    have hitems : level + v.depth ≤ level + n + 1 ↔ v.depth ≤ n + 1 := by omega
    rw [hitems, hdepth, and_iff_right fun _ => hlt]
    refine forall₂_congr fun x hx => (ih x hx (level + 1) (by omega)).trans ?_
    omega
  · exact iff_of_false (fun h => hlt (h.1 hpos)) (by omega)

/-- A value nests as deep as the arrays and objects in it are placed. -/
theorem isPlacedBelow_iff {v : Json} {level limit : Nat} (hlevel : level ≤ limit) :
    IsPlacedBelow limit level v ↔ level + v.depth ≤ limit := by
  induction v using inductParts generalizing level with
  | array xs ih =>
    refine isPlacedBelow_of_items rfl (fun n => ?_) (Nat.succ_pos _) fun x hx level => ih x hx
    exact Nat.succ_le_succ_iff.trans itemsDepth_le_iff
  | object ms ih =>
    have hplaced : (object ms).placed level =
        (level, object ms) :: placedItems (level + 1) (ms.map Prod.snd) := by
      rw [placed, placedMembers_eq]
    refine isPlacedBelow_of_items hplaced (fun n => ?_) (Nat.succ_pos _) ?_
    · rw [List.forall_mem_map]
      exact Nat.succ_le_succ_iff.trans membersDepth_le_iff
    · exact List.forall_mem_map.2 fun m hm level => ih m hm
  | null | bool | int | float | string =>
    exact iff_of_true (List.forall_mem_singleton.2 fun h => absurd h (Nat.lt_irrefl 0)) hlevel

/-! ### Writable values -/

section

variable {d n : Nat} {xs : List Json} {ms : Members}

variable {limits : Limits}

end

/-! ### Faults -/

variable {limits : Limits} {v : Json}

theorem ownFault?_eq_none_iff (hdigits : 0 < limits.maxDigits) {p : Nat × Json} :
    ownFault? limits p = none ↔
      p.2.IsShort limits.maxDigits ∧ (∀ x, p.2 = float x → x.isFinite = true) ∧
        (0 < p.2.depth → p.1 < limits.maxDepth) := by
  obtain ⟨level, v⟩ := p
  cases v <;> simp [ownFault?, IsShort, depth, Text.ofNat, Nat.length_toDigits_le_iff, hdigits]

theorem writeFault?_eq_none_iff (hdigits : 0 < limits.maxDigits) :
    v.writeFault? limits = none ↔ v.IsWritable limits := by
  have hplaces (P : Json → Prop) : (∀ p ∈ v.placed 0, P p.2) ↔ ∀ p ∈ v.parts, P p := by
    rw [← map_snd_placed v 0, List.forall_mem_map]
  have hdepth := isPlacedBelow_iff (v := v) (Nat.zero_le limits.maxDepth)
  rw [IsPlacedBelow, Nat.zero_add] at hdepth
  rw [writeFault?, List.findSome?_eq_none_iff]
  simp only [ownFault?_eq_none_iff hdigits, forall_and]
  rw [hplaces (IsShort limits.maxDigits), hplaces fun p => ∀ x, p = float x → x.isFinite = true,
    hdepth, ← isFinite_eq_true_iff]
  exact ⟨fun ⟨hshort, hfinite, hdepth⟩ => ⟨⟨hshort, hdepth⟩, hfinite⟩,
    fun ⟨⟨hshort, hdepth⟩, hfinite⟩ => ⟨hshort, hfinite, hdepth⟩⟩

/-- Within the limits, nothing but a number that is not finite is refused. -/
theorem eq_notFinite_of_writeFault? (hdigits : 0 < limits.maxDigits) (hv : v.IsWithin limits)
    {fault : WriteFault} (h : v.writeFault? limits = some fault) : fault = .notFinite := by
  have hdepth := (isPlacedBelow_iff (Nat.zero_le limits.maxDepth)).2
    ((Nat.zero_add v.depth).trans_le hv.depth_le)
  obtain ⟨⟨level, p⟩, hp, hfault⟩ := List.exists_of_findSome?_eq_some h
  have hpart : p ∈ v.parts := map_snd_placed v 0 ▸ List.mem_map_of_mem hp
  have hlevel := hdepth _ hp
  cases p with
  | int n =>
    have hlength := (Nat.length_toDigits_le_iff (by decide) hdigits).2 (hv.isShort _ hpart)
    rw [ownFault?, Text.ofNat, List.length_map, if_neg hlength.not_gt] at hfault
    cases hfault
  | float x =>
    simp only [ownFault?] at hfault
    split_ifs at hfault
    exact (Option.some.inj hfault).symm
  | array | object =>
    rw [ownFault?, if_neg (hlevel (Nat.succ_pos _)).not_ge] at hfault
    cases hfault
  | null | bool | string => cases hfault

/-- A number that is not finite is refused, whatever else is. -/
theorem exists_writeFault? (hdigits : 0 < limits.maxDigits) (h : v.HoldsNonFinite) :
    ∃ fault, v.writeFault? limits = some fault := by
  rw [← Option.isSome_iff_exists, Option.isSome_iff_ne_none, Ne, writeFault?_eq_none_iff hdigits]
  intro hwritable
  exact Bool.noConfusion ((isFinite_eq_false_iff.2 h).symm.trans hwritable.isFinite)

end Json

end CompletionWire
