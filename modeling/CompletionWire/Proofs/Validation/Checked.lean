import CompletionWire.Validation.Scalar
import Mathlib.Data.List.Forall2

/-!
# When a check finds a value

One equivalence for every way of putting checks together says when the whole is valid, so that the
value found by a check of a model can be read off the data without looking at issues.
-/

namespace CompletionWire

namespace Checked

variable {α β : Type}

theorem map_eq_valid_iff {f : α → β} {x : Checked α} {b : β} :
    f <$> x = valid b ↔ ∃ a, x = valid a ∧ f a = b := by
  constructor
  · intro h
    cases x with
    | valid a => exact ⟨a, rfl, Checked.valid.inj h⟩
    | invalid issues => cases h
  · intro h
    obtain ⟨a, rfl, rfl⟩ := h
    rfl

theorem seq_eq_valid_iff {f : Checked (α → β)} {x : Checked α} {b : β} :
    f <*> x = valid b ↔ ∃ g a, f = valid g ∧ x = valid a ∧ g a = b := by
  constructor
  · intro h
    cases f with
    | valid g =>
      cases x with
      | valid a => exact ⟨g, a, rfl, rfl, Checked.valid.inj h⟩
      | invalid issues => cases h
    | invalid issues => cases x <;> cases h
  · intro h
    obtain ⟨g, a, rfl, rfl, rfl⟩ := h
    rfl

theorem andThen_eq_valid_iff {f : α → Checked β} {x : Checked α} {b : β} :
    x.andThen f = valid b ↔ ∃ a, x = valid a ∧ f a = valid b := by
  cases x <;> simp [andThen]

@[simp] theorem under_eq_valid_iff {x : Checked α} {step : Step} {a : α} :
    x.under step = valid a ↔ x = valid a := by
  cases x <;> simp [under]

/-- A list is valid when every item is, and its values are those of the items, in order. -/
theorem items_eq_valid_iff {check : Json → Checked α} {start : Nat} {vs : List Json}
    {xs : List α} :
    items check start vs = valid xs ↔ List.Forall₂ (fun v x => check v = valid x) vs xs := by
  induction vs generalizing start xs with
  | nil => simp [items, eq_comm]
  | cons v rest ih =>
    rw [items, seq_eq_valid_iff, List.forall₂_cons_left_iff]
    constructor
    · intro h
      obtain ⟨g, tail, hg, htail, rfl⟩ := h
      obtain ⟨x, hx, rfl⟩ := map_eq_valid_iff.mp hg
      exact ⟨x, tail, under_eq_valid_iff.mp hx, ih.mp htail, rfl⟩
    · intro h
      obtain ⟨x, tail, hx, htail, rfl⟩ := h
      exact ⟨List.cons x, tail, map_eq_valid_iff.mpr ⟨x, under_eq_valid_iff.mpr hx, rfl⟩,
        ih.mpr htail, rfl⟩

end Checked

namespace Members

theorem mem_of_find? {key : Text} {v : Json} {ms : Members} (h : ms.find? key = some v) :
    (key, v) ∈ ms := by
  induction ms with
  | nil => cases h
  | cons m ms ih =>
    rw [Members.find?] at h
    split_ifs at h with hkey
    · rw [← hkey, ← Option.some.inj h]
      exact .head _
    · exact .tail _ (ih h)

/-- The value of a field of two names: what stands under the first one if anything does, and what
stands under the second one otherwise. -/
def Gives (members : Members) (first second : Text) (v : Json) : Prop :=
  members.find? first = some v ∨ members.find? first = none ∧ members.find? second = some v

theorem gives_self_iff {members : Members} {key : Text} {v : Json} :
    members.Gives key key v ↔ members.find? key = some v := by
  constructor
  · intro hx
    rcases hx with h | ⟨hnone, h⟩
    · exact h
    · rw [hnone] at h
      cases h
  · exact .inl

end Members

theorem Field.required_eq_valid_iff {α : Type} {field : Field} {check : Json → Checked α}
    {members : Members} {a : α} :
    field.required check members = .valid a ↔
      ∃ v, members.Gives field.wire field.name v ∧ check v = .valid a := by
  rw [required, find?]
  cases hwire : members.find? field.wire with
  | some v => simp [Members.Gives, hwire]
  | none => cases hname : members.find? field.name <;> simp [Members.Gives, hwire, hname]

namespace Scalar

theorem string_eq_valid_iff {v : Json} {t : Text} : string v = .valid t ↔ v = .string t := by
  cases v <;> simp [string, Checked.refuse]

theorem model_eq_valid_iff {name : Text} {v : Json} {members : Members} :
    model name v = .valid members ↔ v = .object members := by
  cases v <;> simp [model, Checked.refuse]

theorem array_eq_valid_iff {α : Type} {rule : Rule} {check : Json → Checked α} {v : Json}
    {xs : List α} :
    array rule check v = .valid xs ↔
      ∃ items, v = .array items ∧ List.Forall₂ (fun w x => check w = .valid x) items xs := by
  cases v <;> simp [array, Checked.refuse, Checked.items_eq_valid_iff]

end Scalar

end CompletionWire
