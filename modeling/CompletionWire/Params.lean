import CompletionWire.Json.Value
import CompletionWire.Validation.Scalar

/-!
# Parameters of a completion

What a caller says about a completion besides the prompt: how to sample, which backend to ask, and
an object that the backend's adaptor may read. Each field has a name and a name on the wire, and
data may use either.
-/

namespace CompletionWire

structure GenerationParams where
  maxNewTokens : Nat := 60
  temperature : Binary64 := Binary64.ofDecimal false 2 (-1)
  doSample : Bool := true
  topP : Binary64 := Binary64.ofDecimal false 95 (-2)
  stopTokens : List Text := []
deriving DecidableEq

namespace GenerationParams

def modelName : Text := text "GenerationParams"

def maxNewTokensField : Field := ⟨text "max_new_tokens", text "maxNewTokens"⟩

def temperatureField : Field := ⟨text "temperature", text "temperature"⟩

def doSampleField : Field := ⟨text "do_sample", text "doSample"⟩

def topPField : Field := ⟨text "top_p", text "topP"⟩

def stopTokensField : Field := ⟨text "stop_tokens", text "stopTokens"⟩

def fields : List Field :=
  [maxNewTokensField, temperatureField, doSampleField, topPField, stopTokensField]

def ofMembers (members : Members) : Checked GenerationParams :=
  GenerationParams.mk
    <$> maxNewTokensField.optional 60 Scalar.count members
    <*> temperatureField.optional (.ofDecimal false 2 (-1)) Scalar.binary64 members
    <*> doSampleField.optional true Scalar.truth members
    <*> topPField.optional (.ofDecimal false 95 (-2)) Scalar.binary64 members
    <*> stopTokensField.optional [] (Scalar.array .tupleType Scalar.string) members

def check (v : Json) : Checked GenerationParams := (Scalar.model modelName v).andThen ofMembers

def toJson (onWire : Bool) (p : GenerationParams) : Json :=
  .object [
    (maxNewTokensField.key onWire, .int p.maxNewTokens),
    (temperatureField.key onWire, .float p.temperature),
    (doSampleField.key onWire, .bool p.doSample),
    (topPField.key onWire, .float p.topP),
    (stopTokensField.key onWire, .array (p.stopTokens.map .string))]

/-- Equality of the fields, under which what is not a number equals nothing. -/
def equals (p q : GenerationParams) : Bool :=
  p.maxNewTokens = q.maxNewTokens && p.temperature.equals q.temperature &&
    p.doSample = q.doSample && p.topP.equals q.topP && p.stopTokens = q.stopTokens

end GenerationParams

/-- Everything an adaptor needs besides the prompt. -/
structure CompletionParams where
  generation : GenerationParams := {}
  backend? : Option Backend := none
  requestBody? : Option Members := none

namespace CompletionParams

def modelName : Text := text "CompletionParams"

def generationField : Field := ⟨text "generation_params", text "requestParams"⟩

def backendField : Field := ⟨text "backend", text "adaptor"⟩

def requestBodyField : Field := ⟨text "request_body", text "requestBody"⟩

def fields : List Field := [generationField, backendField, requestBodyField]

def ofMembers (members : Members) : Checked CompletionParams :=
  CompletionParams.mk
    <$> generationField.optional {} GenerationParams.check members
    <*> backendField.optional none (Scalar.nullable Scalar.backend) members
    <*> requestBodyField.optional none (Scalar.nullable Scalar.object) members

def check (v : Json) : Checked CompletionParams := (Scalar.model modelName v).andThen ofMembers

def toJson (onWire : Bool) (p : CompletionParams) : Json :=
  .object [
    (generationField.key onWire, p.generation.toJson onWire),
    (backendField.key onWire, (p.backend?.map fun b => Json.string b.tag).getD .null),
    (requestBodyField.key onWire, (p.requestBody?.map .object).getD .null)]

/-- The backend that these parameters go to. -/
def backend (p : CompletionParams) : Backend := Backend.resolve p.backend?

end CompletionParams

end CompletionWire
