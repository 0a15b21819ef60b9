import CompletionWire.Event
import CompletionWire.Params

/-!
# Bodies of requests

A request body is an object whose members stand in a fixed order for each backend. The two backends
that serve several models need the model's name from the caller's own object, where any value but
null will do.
-/

namespace CompletionWire

/-- What is to be completed; a prompt without a value is sent as an empty array. -/
inductive Prompt
  | text (t : Text)
  | nothing
deriving DecidableEq

namespace Prompt

def length : Prompt → Nat
  | text t => t.length
  | nothing => 0

def toJson : Prompt → Json
  | text t => .string t
  | nothing => .array []

end Prompt

namespace Request

def stopList (p : GenerationParams) : Json := .array (p.stopTokens.map .string)

def model (backend : Backend) (p : CompletionParams) : Except Failure Json :=
  match p.requestBody?.bind (Members.find? (text "model")) with
  | none | some .null => .error (.missingModel backend)
  | some v => .ok v

/-- The body for the two backends that serve one model. -/
def textGenerationBody (prompt : Prompt) (p : GenerationParams) : Members := [
  (text "inputs", prompt.toJson),
  (text "parameters", .object [
    (text "max_new_tokens", .int p.maxNewTokens),
    (text "temperature", .float p.temperature),
    (text "do_sample", .bool p.doSample),
    (text "top_p", .float p.topP),
    (text "stop_tokens", stopList p)])]

def ollamaBody (prompt : Prompt) (model : Json) (p : GenerationParams) : Members := [
  (text "prompt", prompt.toJson),
  (text "model", model),
  (text "stream", .bool false),
  (text "options", .object [
    (text "num_predict", .int p.maxNewTokens),
    (text "temperature", .float p.temperature),
    (text "top_p", .float p.topP),
    (text "stop", stopList p)])]

def openAiBody (prompt : Prompt) (model : Json) (p : GenerationParams) : Members := [
  (text "prompt", prompt.toJson),
  (text "model", model),
  (text "max_tokens", .int p.maxNewTokens),
  (text "temperature", .float p.temperature),
  (text "top_p", .float p.topP),
  (text "stop", stopList p)]

/-- The body that asks the selected backend to complete a prompt. -/
def body (prompt : Prompt) (p : CompletionParams) : Except Failure Members :=
  match p.backend with
  | .huggingFace | .tgi => .ok (textGenerationBody prompt p.generation)
  | .ollama => (model .ollama p).map fun m => ollamaBody prompt m p.generation
  | .openAi => (model .openAi p).map fun m => openAiBody prompt m p.generation

/-- A body with one more stop text, wherever its backend has the list of them. -/
def addStop (stop : Text) (body : Members) : Members :=
  let add := Json.push (.string stop)
  ((body.change (text "parameters") (Json.within (text "stop_tokens") add)).change
    (text "options") (Json.within (text "stop") add)).change (text "stop") add

/-- Builds a body and reports that it does. -/
def buildBody (prompt : Prompt) (p : CompletionParams) : Logged (Except Failure Members) :=
  ⟨[.buildingBody p.backend prompt.length], body prompt p⟩

end Request

end CompletionWire
