import CompletionWire.Proofs.Json.LineEnds
import CompletionWire.Proofs.Response.Sizes

/-!
# Responses across line ends

A response is read alike whatever its line ends are. The generations are the same, and so is a
failure but for the size it gives. A text that is not JSON is complained of with the same fault,
noticed at a place that may be another one.
-/

namespace CompletionWire

namespace Response

open Text (SameLines)

/-- An event about a text as it is told of another text with other line ends: the complaint about
what is not JSON gives its size, and the place at which it has the fault. -/
inductive Retold (size : Nat) : Event → Event → Prop
  | same (e : Event) : Retold size e e
  | notJson (backend : Backend) (n : Nat) {f g : Json.Fault Json.Place} (h : f.kind = g.kind) :
      Retold size (.notJson backend n (f.message rules)) (.notJson backend size (g.message rules))

/-- How two texts are loaded that have the same value or the same fault. -/
inductive LoadedAlike (backend : Backend) (size size' : Nat) :
    Logged (Except Mishap Json) → Logged (Except Mishap Json) → Prop
  | value (v : Json) : LoadedAlike backend size size' (.silent (.ok v)) (.silent (.ok v))
  | tooDeep : LoadedAlike backend size size' (.silent (.error (.abort .tooDeep)))
      (.silent (.error (.abort .tooDeep)))
  | notJson {f g : Json.Fault Json.Place} (h : f.kind = g.kind) :
      LoadedAlike backend size size'
        ⟨[.notJson backend size (f.message rules)],
          .error (.failure (.malformedResponse backend size))⟩
        ⟨[.notJson backend size' (g.message rules)],
          .error (.failure (.malformedResponse backend size'))⟩

variable {t u : Text}

theorem loadedAlike_of_sameLines (h : SameLines t u) (backend : Backend) :
    LoadedAlike backend (payloadSize t) (payloadSize u) (load backend t) (load backend u) := by
  rw [load, load]
  have hconstants : rules.constants = false := rfl
  rcases Json.read_of_sameLines hconstants h with ⟨v, ht, hu⟩ | ⟨f, g, ht, hu, hkind⟩
  · rw [ht, hu]
    exact .value v
  · rw [ht, hu]
    cases f with
    | tooDeep =>
      cases g with
      | tooDeep => exact .tooDeep
      | malformed | tooManyDigits | constant => cases hkind
    | malformed | tooManyDigits | constant =>
      cases g with
      | tooDeep => cases hkind
      | malformed | tooManyDigits | constant => exact .notJson hkind

/-- Reading goes the same way for texts that differ in their line ends only. -/
theorem read_of_sameLines (selected? : Option Backend) (h : SameLines t u) :
    List.Forall₂ (Retold (payloadSize u)) (read selected? t).events (read selected? u).events ∧
      (read selected? u).value =
        (read selected? t).value.mapError (Mishap.resized (payloadSize u)) := by
  have hsame (es : List Event) : List.Forall₂ (Retold (payloadSize u)) es es :=
    List.forall₂_same.2 fun e _ => .same e
  have hload := loadedAlike_of_sameLines h (Backend.resolve selected?)
  rw [read, read]
  generalize load (Backend.resolve selected?) t = x at hload
  generalize load (Backend.resolve selected?) u = y at hload
  cases hload with
  | value v =>
    dsimp only [Logged.andThen, Logged.silent]
    rw [classify_resized _ (payloadSize t) (payloadSize u)]
    obtain ⟨events, value⟩ := classify (Backend.resolve selected?) (payloadSize t) v
    cases value with
    | ok gs => exact ⟨hsame _, rfl⟩
    | error f => exact ⟨hsame _, rfl⟩
  | tooDeep => exact ⟨.nil, rfl⟩
  | notJson hkind => exact ⟨.cons (.notJson _ _ hkind) .nil, rfl⟩

end Response

end CompletionWire
