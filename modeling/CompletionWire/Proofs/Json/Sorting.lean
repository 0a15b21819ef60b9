import CompletionWire.Proofs.Json.Readings
import CompletionWire.Proofs.Validation.Spellings
import Mathlib.Data.List.Lex
import Mathlib.Data.List.Sort

/-!
# Values without an order of members

A value whose members stand in the order of their keys, at every depth, has forgotten in what order
they were written. As long as no key stands twice, looking up a key finds the same before and
after, so that whoever reads objects by their keys cannot tell the two apart.
-/

namespace CompletionWire

/-! ### Looking up keys -/

namespace Members

variable {key other : Text} {ms : Members}

theorem find?_map_values (f : Json → Json) :
    find? key (ms.map fun m => (m.1, f m.2)) = (ms.find? key).map f := by
  induction ms with
  | nil => rfl
  | cons m ms ih =>
    rw [List.map_cons, find?, find?]
    split_ifs with hkey
    · rfl
    · exact ih

theorem find?_change_self (f : Json → Json) :
    (ms.change key f).find? key = (ms.find? key).map f := by
  induction ms with
  | nil => rfl
  | cons m ms ih =>
    obtain ⟨k, v⟩ := m
    rw [change] at ih ⊢
    by_cases hkey : k = key <;> simp [find?, hkey, ih]

theorem find?_change_of_ne (f : Json → Json) (h : other ≠ key) :
    (ms.change key f).find? other = ms.find? other := by
  induction ms with
  | nil => rfl
  | cons m ms ih =>
    obtain ⟨k, v⟩ := m
    rw [change] at ih ⊢
    by_cases hkey : k = key
    · simp [find?, hkey, h.symm, ih]
    · simp [find?, hkey, ih]

theorem find?_filter {p : Text × Json → Bool} (h : ∀ v, p (key, v) = true) :
    find? key (ms.filter p) = ms.find? key := by
  induction ms with
  | nil => rfl
  | cons m ms ih =>
    obtain ⟨k, v⟩ := m
    rw [List.filter_cons]
    by_cases hkey : k = key
    · subst hkey
      rw [if_pos (h v), find?, find?, if_pos rfl, if_pos rfl]
    · split_ifs
      · rw [find?, find?, if_neg hkey, if_neg hkey]
        exact ih
      · rw [find?, if_neg hkey]
        exact ih

theorem find?_eq_some_iff_mem {v : Json} (hkeys : (ms.map Prod.fst).Nodup) :
    ms.find? key = some v ↔ (key, v) ∈ ms := by
  refine ⟨mem_of_find?, fun h => ?_⟩
  induction ms with
  | nil => cases h
  | cons m ms ih =>
    obtain ⟨hm, hms⟩ := List.nodup_cons.1 hkeys
    rw [find?]
    rcases List.mem_cons.1 h with rfl | h
    · exact if_pos rfl
    · have hkey : m.1 ≠ key := by
        rintro rfl
        exact hm (List.mem_map.2 ⟨_, h, rfl⟩)
      rw [if_neg hkey]
      exact ih hms h

end Members

namespace Json

/-! ### Sorting -/

def InOrder (m n : Text × Json) : Prop := m.1.map CodePoint.val ≤ n.1.map CodePoint.val

instance : DecidableRel InOrder := fun m n =>
  inferInstanceAs (Decidable (m.1.map CodePoint.val ≤ n.1.map CodePoint.val))

instance : Std.Total InOrder := ⟨fun _ _ => le_total _ _⟩

instance : IsTrans (Text × Json) InOrder := ⟨fun _ _ _ => le_trans⟩

theorem InOrder.key_eq {m n : Text × Json} (h : InOrder m n) (h' : InOrder n m) : m.1 = n.1 := by
  have hvals : m.1.map CodePoint.val = n.1.map CodePoint.val := le_antisymm h h'
  exact List.map_injective_iff.2 (fun _ _ => CodePoint.ext) hvals

mutual

/-- The value with the members of each object in the order of their keys. -/
def sorted : Json → Json
  | .array xs => .array (itemsSorted xs)
  | .object ms => .object ((membersSorted ms).insertionSort InOrder)
  | v => v

def itemsSorted : List Json → List Json
  | [] => []
  | x :: xs => x.sorted :: itemsSorted xs

def membersSorted : List (Text × Json) → Members
  | [] => []
  | (k, v) :: ms => (k, v.sorted) :: membersSorted ms

end

theorem itemsSorted_eq (xs : List Json) : itemsSorted xs = xs.map sorted := by
  induction xs with
  | nil => rfl
  | cons x xs ih => rw [itemsSorted, ih, List.map_cons]

theorem membersSorted_eq (ms : Members) :
    membersSorted ms = ms.map fun m => (m.1, m.2.sorted) := by
  induction ms with
  | nil => rfl
  | cons m ms ih => rw [membersSorted, ih, List.map_cons]

theorem sorted_array (xs : List Json) : (array xs).sorted = .array (xs.map sorted) := by
  rw [sorted, itemsSorted_eq]

theorem sorted_eq_string_iff {v : Json} {t : Text} : v.sorted = .string t ↔ v = .string t := by
  cases v <;> simp [sorted]

theorem exists_sorted_object {ms : Members} (hkeys : (ms.map Prod.fst).Nodup) :
    ∃ ns : Members, (object ms).sorted = .object ns ∧
      ∀ key, ns.find? key = (ms.find? key).map sorted := by
  refine ⟨(membersSorted ms).insertionSort InOrder, sorted.eq_2 .., ?_⟩
  intro key
  have hperm := List.perm_insertionSort InOrder (membersSorted ms)
  have hsame : (membersSorted ms).map Prod.fst = ms.map Prod.fst := by
    rw [membersSorted_eq, List.map_map]
    rfl
  rw [← Members.find?_perm hperm.symm (hsame ▸ hkeys), membersSorted_eq, Members.find?_map_values]

/-- Members of distinct keys can stand in the order of their keys in one way only. -/
theorem insertionSort_eq_of_perm {ms ns : Members} (h : ms.Perm ns)
    (hkeys : (ms.map Prod.fst).Nodup) :
    ms.insertionSort InOrder = ns.insertionSort InOrder := by
  refine List.Perm.eq_of_pairwise ?_ (List.pairwise_insertionSort InOrder _)
    (List.pairwise_insertionSort InOrder _)
    (((List.perm_insertionSort ..).trans h).trans (List.perm_insertionSort ..).symm)
  intro m n hm hn hmn hnm
  rw [List.mem_insertionSort] at hm hn
  exact List.inj_on_of_nodup_map hkeys hm (h.mem_iff.2 hn) (hmn.key_eq hnm)

end Json

end CompletionWire
