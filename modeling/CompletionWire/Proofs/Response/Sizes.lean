import CompletionWire.Proofs.Response.Classification

/-!
# The size of a payload in a failure

Reading a response measures its text only to say how large it was. What a value is taken for does
not depend on the size: with another one the outcome is the same generations, or the same failure
with the other size in the place of the first.
-/

namespace CompletionWire

def Failure.resized (size : Int) : Failure → Failure
  | .malformedResponse b _ => .malformedResponse b size
  | .unexpectedShape b _ message? => .unexpectedShape b size message?
  | .listOfGenerations b _ => .listOfGenerations b size
  | f => f

def Mishap.resized (size : Int) : Mishap → Mishap
  | .failure f => .failure (f.resized size)
  | m => m

namespace Response

theorem classify_resized (backend : Backend) (size size' : Nat) (v : Json) :
    classify backend size' v =
      (classify backend size v).map (·.mapError (Failure.resized size')) := by
  cases backend with
  | huggingFace | tgi =>
    simp only [classify, Reply.of?, Reply.ofTextGeneration?]
    cases (Generation.check v).toOption <;>
      cases (Scalar.array .listType Generation.check v).toOption <;>
      cases (ErrorReply.check v).toOption <;> rfl
  | ollama =>
    simp only [classify, Reply.of?, Reply.ofOllama?]
    cases (OllamaReply.check v).toOption <;> cases (ErrorReply.check v).toOption <;> rfl
  | openAi =>
    simp only [classify, Reply.of?, Reply.ofOpenAi?]
    cases (ChoicesReply.check v).toOption <;> cases (DetailReply.check v).toOption <;> rfl

/-- Two texts whose values are taken for the same are read as the same but for their sizes. -/
theorem read_resized {selected? : Option Backend} {t u : Text} {v w : Json}
    (hv : (load (Backend.resolve selected?) t).value = .ok v)
    (hw : (load (Backend.resolve selected?) u).value = .ok w)
    (h : ∀ size, (classify (Backend.resolve selected?) size v).value =
      (classify (Backend.resolve selected?) size w).value) :
    (read selected? u).value =
      (read selected? t).value.mapError (Mishap.resized (payloadSize u)) := by
  rw [read_value_of_load hv, read_value_of_load hw, ← h (payloadSize u),
    classify_resized _ (payloadSize t), Logged.map]
  cases (classify (Backend.resolve selected?) (payloadSize t) v).value <;> rfl

end Response

end CompletionWire
