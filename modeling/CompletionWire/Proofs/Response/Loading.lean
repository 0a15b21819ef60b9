import CompletionWire.Proofs.Json.Nesting
import CompletionWire.Response.Generations

/-!
# Loading a response

A response is loaded by the grammar alone: its value is the one that the grammar gives its text, and
a text that the grammar does not derive is malformed. Nothing else can come of it unless its arrays
and objects nest deeper than the reader may hold.
-/

namespace CompletionWire

namespace Response

open Json.Reader (document)

theorem load_eq_ok_iff {backend : Backend} {t : Text} {v : Json} :
    (load backend t).value = .ok v ↔ document rules t = .ok v := by
  unfold load Json.read
  cases document rules t with
  | ok u => simp [Except.mapError, Logged.silent]
  | error fault => cases fault <;> simp [Except.mapError, Json.Fault.located, Logged.silent]

theorem load_eq_tooDeep_iff {backend : Backend} {t : Text} :
    (load backend t).value = .error (.abort .tooDeep) ↔
      document rules t = .error .tooDeep := by
  unfold load Json.read
  cases document rules t with
  | ok u => simp [Except.mapError, Logged.silent]
  | error fault => cases fault <;> simp [Except.mapError, Json.Fault.located, Logged.silent]

/-- Loading a text has three outcomes: its value, giving up, or a failure with its size. -/
theorem load_cases (backend : Backend) (t : Text) :
    (∃ v, (load backend t).value = .ok v) ∨
      (load backend t).value = .error (.abort .tooDeep) ∨
      (load backend t).value = .error (.failure (.malformedResponse backend (payloadSize t))) := by
  unfold load
  split
  · exact .inl ⟨_, rfl⟩
  · exact .inr (.inl rfl)
  · exact .inr (.inr rfl)

/-- A response is loaded exactly if its text is a JSON document, with the value that the grammar
assigns to it, and a text that is none is malformed and measured in bytes. The one way out is to
give up for depth, which does not happen as long as the text nests no deeper than may be read. -/
theorem load_eq_ok_iff_isDocument (backend : Backend) (t : Text) :
    (Json.nesting t ≤ rules.maxDepth → (load backend t).value ≠ .error (.abort .tooDeep)) ∧
      ((load backend t).value ≠ .error (.abort .tooDeep) →
        (∀ v, (load backend t).value = .ok v ↔ Json.Grammar.IsDocument (some 4300) t v) ∧
        ((¬∃ v, Json.Grammar.IsDocument (some 4300) t v) →
          (load backend t).value =
            .error (.failure (.malformedResponse backend (payloadSize t))))) := by
  refine ⟨fun hnesting h => ?_, fun hdepth => ?_⟩
  · have hlt := Json.Reader.lt_nesting_of_document rfl (load_eq_tooDeep_iff.1 h)
    exact Nat.not_lt.2 hnesting hlt
  · have hiff (v : Json) :
        (load backend t).value = .ok v ↔ Json.Grammar.IsDocument (some 4300) t v :=
      load_eq_ok_iff.trans
        (Json.Reader.document_eq_ok_iff rfl (fun h => hdepth (load_eq_tooDeep_iff.2 h)) v)
    refine ⟨hiff, fun hnone => ?_⟩
    rcases load_cases backend t with ⟨v, hv⟩ | hdeep | hmalformed
    · exact absurd ⟨v, (hiff v).1 hv⟩ hnone
    · exact absurd hdeep hdepth
    · exact hmalformed

end Response

end CompletionWire
