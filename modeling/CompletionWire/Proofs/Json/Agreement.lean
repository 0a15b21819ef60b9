import CompletionWire.Proofs.Decimal.Equality
import CompletionWire.Proofs.Json.Sorting

/-!
# Agreement of values

Two values agree exactly if they have one canonical form: numbers and truth values that are equal to
a whole number are written as this one, and members stand in the order of their keys. So agreement
is an equivalence among the values without numbers that equal nothing, as long as no object holds a
key twice.
-/

namespace CompletionWire

namespace Json

/-! ### Canonical forms -/

mutual

/-- The value with whole numbers in the place of all that is equal to one. -/
def counted : Json → Json
  | .bool b => .int (if b then 1 else 0)
  | .float x => (x.toInt?.map .int).getD (.float x)
  | .array xs => .array (itemsCounted xs)
  | .object ms => .object (membersCounted ms)
  | v => v

def itemsCounted : List Json → List Json
  | [] => []
  | x :: xs => x.counted :: itemsCounted xs

def membersCounted : List (Text × Json) → Members
  | [] => []
  | (k, v) :: ms => (k, v.counted) :: membersCounted ms

end

/-- What is common to all values that agree with a value. -/
def canonical (v : Json) : Json := v.counted.sorted

def canonicalMembers (ms : Members) : Members := ms.map fun m => (m.1, m.2.canonical)

theorem map_fst_canonicalMembers (ms : Members) :
    (canonicalMembers ms).map Prod.fst = ms.map Prod.fst := by
  rw [canonicalMembers, List.map_map]
  rfl

theorem canonical_array (xs : List Json) : (array xs).canonical = .array (xs.map canonical) := by
  have hitems : itemsCounted xs = xs.map counted := by
    induction xs with
    | nil => rfl
    | cons x xs ih => rw [itemsCounted, ih, List.map_cons]
  rw [canonical, counted, sorted_array, hitems, List.map_map]
  rfl

theorem canonical_object (ms : Members) :
    (object ms).canonical =
      .object ((canonicalMembers ms).insertionSort InOrder) := by
  have hmembers : membersCounted ms = ms.map fun m => (m.1, m.2.counted) := by
    induction ms with
    | nil => rfl
    | cons m ms ih => rw [membersCounted, ih, List.map_cons]
  rw [canonical, counted, sorted, membersSorted_eq, hmembers, List.map_map]
  rfl

theorem canonical_float {x : Binary64} :
    (float x).canonical = (x.toInt?.map .int).getD (.float x) := by
  rw [canonical, counted]
  cases x.toInt? <;> rfl

/-! ### Numbers -/

theorem equals_iff_canonical_eq {x y : Binary64} (hx : x ≠ .nan) :
    x.equals y = true ↔ (float x).canonical = (float y).canonical := by
  rw [canonical_float, canonical_float]
  constructor
  · intro h
    obtain ⟨-, rfl | ⟨a, b, rfl, rfl⟩⟩ := Binary64.equals_iff.1 h
    · rfl
    · rw [Binary64.toInt?_zero, Binary64.toInt?_zero]
      rfl
  · intro h
    cases hm : x.toInt? with
    | none =>
      cases hn : y.toInt? with
      | none =>
        simp only [hm, hn, Option.map_none, Option.getD_none, float.injEq] at h
        exact h ▸ Binary64.equals_self hx
      | some n => simp [hm, hn] at h
    | some m =>
      cases hn : y.toInt? with
      | none => simp [hm, hn] at h
      | some n =>
        simp only [hm, hn, Option.map_some, Option.getD_some, int.injEq] at h
        exact Binary64.equals_of_toInt? hm (h ▸ hn)

/-- Nothing in a value is a number that equals nothing. -/
def HasNoNan (v : Json) : Prop := ∀ p ∈ v.parts, p ≠ .float .nan

/-! ### Agreement is having one canonical form -/

variable {v w : Json} {xs ys : List Json} {ms ns : Members}

namespace HasNoNan

variable {x : Json} {m : Text × Json}

theorem item (h : (array xs).HasNoNan) (hx : x ∈ xs) : x.HasNoNan :=
  (forall_parts_array.1 h).2 x hx

theorem member (h : (object ms).HasNoNan) (hm : m ∈ ms) : m.2.HasNoNan :=
  (forall_parts_object.1 h).2 m hm

end HasNoNan

theorem agrees_iff_of_leaf (hv : v.HasNoNan) (harray : ∀ xs, v ≠ .array xs)
    (hobject : ∀ ms, v ≠ .object ms) : v.agrees w = true ↔ v.canonical = w.canonical := by
  cases v with
  | array xs => exact absurd rfl (harray xs)
  | object ms => exact absurd rfl (hobject ms)
  | float x =>
    cases w with
    | float y =>
      have hx : x ≠ .nan := fun hx => hv _ (self_mem_parts _) (congrArg _ hx)
      rw [← equals_iff_canonical_eq hx]
      simp only [agrees, sameNumber]
    | null | bool | int | string | array | object =>
      rw [canonical_float]
      cases h : x.toInt? <;> simp [agrees, sameNumber, whole?, canonical, counted, sorted, h]
  | null | bool | int | string =>
    cases w with
    | float y =>
      rw [canonical_float]
      cases h : y.toInt? <;>
        simp [agrees, sameNumber, whole?, canonical, counted, sorted, h, eq_comm]
    | null | bool | int | string | array | object =>
      simp [agrees, sameNumber, whole?, canonical, counted, sorted, eq_comm]

theorem itemsAgree_iff (h : ∀ x ∈ xs, ∀ y ∈ ys, x.agrees y = true ↔ x.canonical = y.canonical) :
    itemsAgree xs ys = true ↔ xs.map canonical = ys.map canonical := by
  induction xs generalizing ys with
  | nil => cases ys <;> simp [itemsAgree]
  | cons x xs ih =>
    cases ys with
    | nil => simp [itemsAgree]
    | cons y ys =>
      have hxs := ih fun x hx y hy => h x (.tail _ hx) y (.tail _ hy)
      rw [itemsAgree, Bool.and_eq_true, hxs, h x (.head _) y (.head _)]
      simp

theorem membersAgree_iff :
    membersAgree ms ns = true ↔ ∀ m ∈ ms, ∃ w, ns.find? m.1 = some w ∧ m.2.agrees w = true := by
  induction ms with
  | nil => simp [membersAgree]
  | cons m ms ih =>
    obtain ⟨k, v⟩ := m
    rw [membersAgree, Bool.and_eq_true, ih, List.forall_mem_cons]
    refine and_congr_left fun _ => ?_
    cases ns.find? k <;> simp

theorem find?_canonicalMembers (key : Text) (ms : Members) :
    (canonicalMembers ms).find? key = (ms.find? key).map canonical :=
  Members.find?_map_values canonical

/-- As many members with the same keys are the same members in another order. -/
theorem membersAgree_iff_perm (hms : (ms.map Prod.fst).Nodup) (hlength : ms.length = ns.length)
    (h : ∀ m ∈ ms, ∀ n ∈ ns, m.2.agrees n.2 = true ↔ m.2.canonical = n.2.canonical) :
    membersAgree ms ns = true ↔ (canonicalMembers ms).Perm (canonicalMembers ns) := by
  rw [membersAgree_iff]
  constructor
  · intro hagree
    have hdistinct : (canonicalMembers ms).Nodup := by
      apply List.Nodup.of_map Prod.fst
      rwa [map_fst_canonicalMembers]
    have hsubset : canonicalMembers ms ⊆ canonicalMembers ns := by
      intro x hx
      obtain ⟨m, hm, rfl⟩ := List.mem_map.1 hx
      obtain ⟨w, hw, hvalues⟩ := hagree m hm
      have hmem := Members.mem_of_find? hw
      refine List.mem_map.2 ⟨(m.1, w), hmem, ?_⟩
      rw [(h m hm _ hmem).1 hvalues]
    refine (List.subperm_of_subset hdistinct hsubset).perm_of_length_le ?_
    rw [canonicalMembers, canonicalMembers, List.length_map, List.length_map, hlength]
  · intro hperm m hm
    have hfind : (canonicalMembers ms).find? m.1 = (canonicalMembers ns).find? m.1 :=
      Members.find?_perm hperm (by rwa [map_fst_canonicalMembers])
    rw [find?_canonicalMembers, find?_canonicalMembers,
      (Members.find?_eq_some_iff_mem hms).2 hm, Option.map_some, eq_comm,
      Option.map_eq_some_iff] at hfind
    obtain ⟨w, hw, hvalues⟩ := hfind
    exact ⟨w, hw, (h m hm _ (Members.mem_of_find? hw)).2 hvalues.symm⟩

theorem canonical_object_eq_iff (hms : (ms.map Prod.fst).Nodup) :
    (object ms).canonical = (object ns).canonical ↔
      (canonicalMembers ms).Perm (canonicalMembers ns) := by
  rw [canonical_object, canonical_object, object.injEq]
  constructor
  · intro h
    exact ((List.perm_insertionSort InOrder _).symm.trans (.of_eq h)).trans
      (List.perm_insertionSort InOrder _)
  · intro h
    exact insertionSort_eq_of_perm h (by rwa [map_fst_canonicalMembers])

/-- Where no object holds a key twice and nothing is NaN, the values that agree with a value are
those with its canonical form. -/
theorem agrees_iff_canonical_eq (hv : v.Orderly none) (hnan : v.HasNoNan) :
    v.agrees w = true ↔ v.canonical = w.canonical := by
  induction v using inductParts generalizing w with
  | null | bool | int | float | string => exact agrees_iff_of_leaf hnan nofun nofun
  | array xs ih =>
    have hitems {x : Json} (hx : x ∈ xs) (w : Json) :
        x.agrees w = true ↔ x.canonical = w.canonical :=
      ih x hx (hv.item hx) (hnan.item hx)
    cases w with
    | array ys =>
      rw [agrees, canonical_array, canonical_array, array.injEq]
      exact itemsAgree_iff fun x hx y _ => hitems hx y
    | float y =>
      rw [canonical_array, canonical_float]
      cases h : y.toInt? <;> simp [agrees, sameNumber, whole?]
    | null | bool | int | string | object =>
      rw [canonical_array]
      simp [agrees, sameNumber, whole?, canonical, counted, sorted]
  | object ms ih =>
    have hvalues {m : Text × Json} (hm : m ∈ ms) (w : Json) :
        m.2.agrees w = true ↔ m.2.canonical = w.canonical :=
      ih m hm (hv.member hm) (hnan.member hm)
    cases w with
    | object ns =>
      rw [agrees, Bool.and_eq_true, decide_eq_true_iff, canonical_object_eq_iff hv.keys]
      have hmembers (hlength : ms.length = ns.length) :=
        membersAgree_iff_perm hv.keys hlength fun m hm n _ => hvalues hm n.2
      constructor
      · intro h
        exact (hmembers h.1).1 h.2
      · intro h
        have hlength : ms.length = ns.length := by
          simpa only [canonicalMembers, List.length_map] using h.length_eq
        exact ⟨hlength, (hmembers hlength).2 h⟩
    | float y =>
      rw [canonical_object, canonical_float]
      cases h : y.toInt? <;> simp [agrees, sameNumber, whole?]
    | null | bool | int | string | array =>
      rw [canonical_object]
      simp [agrees, sameNumber, whole?, canonical, counted, sorted]

/-! ### What follows from agreement -/

theorem agrees_bool (b c : Bool) : (bool b).agrees (bool c) = decide (b = c) := by
  cases b <;> cases c <;> rfl

theorem agrees_int (m n : Int) : (int m).agrees (int n) = decide (m = n) := by
  simp [agrees, sameNumber, whole?, eq_comm]

theorem agrees_float (x y : Binary64) : (float x).agrees (float y) = x.equals y := by
  simp only [agrees, sameNumber]

theorem agrees_self (hv : v.Orderly none) (hnan : v.HasNoNan) : v.agrees v = true :=
  (agrees_iff_canonical_eq hv hnan).2 rfl

theorem agrees_symm (hv : v.Orderly none) (hnan : v.HasNoNan) (hw : w.Orderly none)
    (hnan' : w.HasNoNan) (h : v.agrees w = true) : w.agrees v = true :=
  (agrees_iff_canonical_eq hw hnan').2 ((agrees_iff_canonical_eq hv hnan).1 h).symm

theorem agrees_trans {u : Json} (hv : v.Orderly none) (hnan : v.HasNoNan) (hw : w.Orderly none)
    (hnan' : w.HasNoNan) (h : v.agrees w = true) (h' : w.agrees u = true) : v.agrees u = true :=
  (agrees_iff_canonical_eq hv hnan).2 <|
    ((agrees_iff_canonical_eq hv hnan).1 h).trans ((agrees_iff_canonical_eq hw hnan').1 h')

theorem canonical_eq_null_iff : v.canonical = .null ↔ v = .null := by
  cases v with
  | float x =>
    rw [canonical_float]
    cases x.toInt? <;> simp
  | array | object => simp [canonical_array, canonical_object]
  | null | bool | int | string => simp [canonical, counted, sorted]

/-- Objects that agree have values that agree under every key. -/
theorem find?_canonical_eq (hms : (object ms).Orderly none) (hnan : (object ms).HasNoNan)
    (h : (object ms).agrees (object ns) = true) (key : Text) :
    (ms.find? key).map canonical = (ns.find? key).map canonical := by
  have hperm := (canonical_object_eq_iff hms.keys).1 ((agrees_iff_canonical_eq hms hnan).1 h)
  rw [← find?_canonicalMembers, ← find?_canonicalMembers]
  exact Members.find?_perm hperm (by rw [map_fst_canonicalMembers]; exact hms.keys)

theorem agrees_of_forall₂ (hkeys : (ms.map Prod.fst).Nodup)
    (h : List.Forall₂ (fun m n => m.1 = n.1 ∧ m.2.agrees n.2 = true) ms ns) :
    (object ms).agrees (object ns) = true := by
  have hsame : ms.map Prod.fst = ns.map Prod.fst := by
    clear hkeys
    induction h with
    | nil => rfl
    | cons hm _ ih => rw [List.map_cons, List.map_cons, hm.1, ih]
  rw [agrees, Bool.and_eq_true, decide_eq_true_iff, membersAgree_iff]
  refine ⟨h.length_eq, fun m hm => ?_⟩
  obtain ⟨n, hn, hkey, hvalues⟩ : ∃ n ∈ ns, m.1 = n.1 ∧ m.2.agrees n.2 = true := by
    clear hkeys hsame
    induction h with
    | nil => cases hm
    | cons hfirst _ ih =>
      rcases List.mem_cons.1 hm with rfl | hm
      · exact ⟨_, .head _, hfirst⟩
      · obtain ⟨n, hn, hpair⟩ := ih hm
        exact ⟨n, .tail _ hn, hpair⟩
  rw [hkey]
  exact ⟨n.2, (Members.find?_eq_some_iff_mem (hsame ▸ hkeys)).2 hn, hvalues⟩

end Json

end CompletionWire
