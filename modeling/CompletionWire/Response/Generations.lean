import CompletionWire.Event
import CompletionWire.Mishap

/-!
# Generations of a response

A response has no field that says what it is: each backend has an ordered list of shapes, and the
first one that a response has is taken. The outcome of a text is one of its generations in their
order, a failure of the backend in question, or nesting beyond what is read at all.
-/

namespace CompletionWire

namespace Response

/-- How responses are read: as JSON proper, with whole numbers of at most 4300 digits. -/
def rules : Json.Rules := ⟨some 4300, 990, false⟩

/-- The number of bytes of a text, a lone surrogate taking three. -/
def payloadSize (t : Text) : Nat := t.utf8.length

/-- What a backend said: generations in the shape of its own, an array of generations, or an
error. -/
inductive Reply
  | generations (gs : List Generation)
  | array (gs : List Generation)
  | failure (f : Failure)

/-- One generation, or an array of them, or an error, tried in this order. -/
def Reply.ofTextGeneration? (report : Text → Failure) (v : Json) : Option Reply :=
  ((Generation.check v).toOption.map fun g => .generations [g]).or <|
    ((Scalar.array .listType Generation.check v).toOption.map .array).or <|
      (ErrorReply.check v).toOption.map fun e => .failure (report e.error)

/-- A generation or an error, tried in this order. -/
def Reply.ofOllama? (v : Json) : Option Reply :=
  ((OllamaReply.check v).toOption.map fun r => .generations [⟨r.response⟩]).or <|
    (ErrorReply.check v).toOption.map fun e => .failure (.ollama e.error)

/-- A list of choices or a list of errors, tried in this order. -/
def Reply.ofOpenAi? (v : Json) : Option Reply :=
  ((ChoicesReply.check v).toOption.map fun r =>
      .generations (r.choices.map fun c => ⟨c.text⟩)).or <|
    (DetailReply.check v).toOption.map fun r => .failure (.openAi r.detail)

/-- What a value says when this backend answers with it. -/
def Reply.of? : Backend → Json → Option Reply
  | .huggingFace => ofTextGeneration? .inferenceApi
  | .tgi => ofTextGeneration? .tgi
  | .ollama => ofOllama?
  | .openAi => ofOpenAi?

/-- The outcome of a reply; an array from the text generation server shows that another one
answered. -/
def Reply.outcome (backend : Backend) (size : Nat) :
    Reply → Logged (Except Failure (List Generation))
  | generations gs => .silent (.ok gs)
  | array gs =>
    if backend = .tgi then
      ⟨[.listOfGenerations gs.length], .error (.listOfGenerations backend size)⟩
    else .silent (.ok gs)
  | failure f => .silent (.error f)

/-- The outcome of a JSON value, `size` being that of its text. -/
def classify (backend : Backend) (size : Nat) (v : Json) :
    Logged (Except Failure (List Generation)) :=
  match Reply.of? backend v with
  | some reply => reply.outcome backend size
  | none => .silent (.error (.unexpectedShape backend size none))

def load (backend : Backend) (t : Text) : Logged (Except Mishap Json) :=
  match Json.read rules t with
  | .ok v => .silent (.ok v)
  | .error .tooDeep => .silent (.error (.abort .tooDeep))
  | .error fault =>
    ⟨[.notJson backend (payloadSize t) (fault.message rules)],
      .error (.failure (.malformedResponse backend (payloadSize t)))⟩

/-- The generations of a response, with the events on the way. -/
def read (selected? : Option Backend) (t : Text) : Logged (Except Mishap (List Generation)) :=
  let backend := Backend.resolve selected?
  (load backend t).andThen fun
    | .error m => .silent (.error m)
    | .ok v =>
      (classify backend (payloadSize t) v).andThen fun
        | .error f => .silent (.error (.failure f))
        | .ok gs => ⟨[.parsed gs.length backend], .ok gs⟩

end Response

end CompletionWire
