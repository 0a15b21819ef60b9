import CompletionWire.Validation.Scalar

/-!
# Shapes of responses

The objects that backends answer with, each with its check and its form as an object: generations
under the names that the backends give them, error texts, and the error lists of OpenAI-compatible
servers.
-/

namespace CompletionWire

structure Generation where
  generatedText : Text
deriving DecidableEq

namespace Generation

def modelName : Text := text "Generation"

def textField : Field := ⟨text "generated_text", text "generated_text"⟩

def fields : List Field := [textField]

def check (v : Json) : Checked Generation :=
  (Scalar.model modelName v).andThen fun members =>
    Generation.mk <$> textField.required Scalar.string members

def toJson (g : Generation) : Json := .object [(textField.wire, .string g.generatedText)]

end Generation

structure ErrorReply where
  error : Text
deriving DecidableEq

namespace ErrorReply

def modelName : Text := text "APIError"

def errorField : Field := ⟨text "error", text "error"⟩

def fields : List Field := [errorField]

def check (v : Json) : Checked ErrorReply :=
  (Scalar.model modelName v).andThen fun members =>
    ErrorReply.mk <$> errorField.required Scalar.string members

def toJson (e : ErrorReply) : Json := .object [(errorField.wire, .string e.error)]

end ErrorReply

/-- A completion as Ollama gives it. -/
structure OllamaReply where
  response : Text
deriving DecidableEq

namespace OllamaReply

def modelName : Text := text "OllamaGeneration"

def responseField : Field := ⟨text "response", text "response"⟩

def fields : List Field := [responseField]

def check (v : Json) : Checked OllamaReply :=
  (Scalar.model modelName v).andThen fun members =>
    OllamaReply.mk <$> responseField.required Scalar.string members

def toJson (r : OllamaReply) : Json := .object [(responseField.wire, .string r.response)]

end OllamaReply

/-- One of the completions of an OpenAI-compatible server. -/
structure Choice where
  text : Text
deriving DecidableEq

namespace Choice

def modelName : Text := CompletionWire.text "OpenAIChoice"

def textField : Field := ⟨CompletionWire.text "text", CompletionWire.text "text"⟩

def check (v : Json) : Checked Choice :=
  (Scalar.model modelName v).andThen fun members =>
    Choice.mk <$> textField.required Scalar.string members

def toJson (c : Choice) : Json := .object [(textField.wire, .string c.text)]

end Choice

/-- The completions of an OpenAI-compatible server. -/
structure ChoicesReply where
  choices : List Choice
deriving DecidableEq

namespace ChoicesReply

def modelName : Text := text "OpenAIGeneration"

def choicesField : Field := ⟨text "choices", text "choices"⟩

def fields : List Field := [choicesField]

def check (v : Json) : Checked ChoicesReply :=
  (Scalar.model modelName v).andThen fun members =>
    ChoicesReply.mk <$> choicesField.required (Scalar.array .listType Choice.check) members

def toJson (r : ChoicesReply) : Json :=
  .object [(choicesField.wire, .array (r.choices.map Choice.toJson))]

end ChoicesReply

/-- Where a server found an error: under a name or at an index. -/
inductive Location
  | name (n : Text)
  | index (i : Nat)
deriving DecidableEq

namespace Location

/-- A string or a whole number that is not negative, neither of them in another guise. -/
def check (v : Json) : Checked Location :=
  match v with
  | .string s => .valid (.name s)
  | .int (.ofNat i) => .valid (.index i)
  | _ =>
    let rule := match v with
      | .int _ => Rule.nonNegative
      | _ => Rule.intType
    .invalid [⟨.stringType, [.key (text "str")], v⟩, ⟨rule, [.key (text "constrained-int")], v⟩]

def toJson : Location → Json
  | name n => .string n
  | index i => .int i

def message : Location → Text
  | name n => n
  | index i => Text.ofNat i

end Location

/-- An entry of the error list of an OpenAI-compatible server. -/
structure ErrorDetail where
  location : Location
  message : Text
  kind : Text
deriving DecidableEq

namespace ErrorDetail

def modelName : Text := text "OpenAIErrorDetail"

def locationField : Field := ⟨text "location", text "loc"⟩

def messageField : Field := ⟨text "message", text "msg"⟩

def kindField : Field := ⟨text "kind", text "type"⟩

def fields : List Field := [locationField, messageField, kindField]

def check (v : Json) : Checked ErrorDetail :=
  (Scalar.model modelName v).andThen fun members =>
    ErrorDetail.mk
      <$> locationField.required Location.check members
      <*> messageField.required Scalar.string members
      <*> kindField.required Scalar.string members

def toJson (onWire : Bool) (d : ErrorDetail) : Json :=
  .object [
    (locationField.key onWire, d.location.toJson),
    (messageField.key onWire, .string d.message),
    (kindField.key onWire, .string d.kind)]

/-- One line that tells an entry. -/
def line (d : ErrorDetail) : Text :=
  d.location.message ++ text ": " ++ d.message ++ text " (" ++ d.kind ++ text ")"

end ErrorDetail

/-- The error list of an OpenAI-compatible server. -/
structure DetailReply where
  detail : List ErrorDetail
deriving DecidableEq

namespace DetailReply

def modelName : Text := text "OpenAIErrorBody"

def detailField : Field := ⟨text "detail", text "detail"⟩

def fields : List Field := [detailField]

def check (v : Json) : Checked DetailReply :=
  (Scalar.model modelName v).andThen fun members =>
    DetailReply.mk <$> detailField.required (Scalar.array .listType ErrorDetail.check) members

def toJson (onWire : Bool) (r : DetailReply) : Json :=
  .object [(detailField.wire, .array (r.detail.map (ErrorDetail.toJson onWire)))]

end DetailReply

end CompletionWire
