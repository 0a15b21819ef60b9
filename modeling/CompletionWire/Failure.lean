import CompletionWire.Response.Shape

/-!
# Failures of adaptors

What an adaptor fails with: a request that cannot be built, a response that is not JSON or has no
known shape, or an error that the backend itself reports. Sizes stand for payloads, so that no
message repeats what a backend sent, its own error reports apart.
-/

namespace CompletionWire

inductive Failure
  | general (message : Text) (backend? : Option Backend)
  | reported (message : Text) (backend? : Option Backend)
  | invalidHeader (header : Text) (backend? : Option Backend)
  | missingModel (backend : Backend)
  | malformedResponse (backend : Backend) (size : Int)
  | unexpectedShape (backend : Backend) (size : Int) (message? : Option Text)
  | listOfGenerations (backend : Backend) (size : Int)
  | inferenceApi (error : Text)
  | tgi (error : Text)
  | ollama (error : Text)
  | openAi (detail : List ErrorDetail)
deriving DecidableEq

namespace Failure

def backend? : Failure → Option Backend
  | general _ b | reported _ b | invalidHeader _ b => b
  | missingModel b | malformedResponse b _ | unexpectedShape b _ _ | listOfGenerations b _ => some b
  | inferenceApi _ => some .huggingFace
  | tgi _ => some .tgi
  | ollama _ => some .ollama
  | openAi _ => some .openAi

def sizeText (size : Int) : Text := text " (" ++ Text.ofInt size ++ text " bytes)"

def message : Failure → Text
  | general m _ | reported m _ => m
  | invalidHeader header _ => text "Invalid value for header '" ++ header ++ text "'"
  | missingModel b =>
    text "The " ++ b.tag ++ text " adaptor requires request_body with a 'model' field"
  | malformedResponse b size => b.tag ++ text " response is not valid JSON" ++ sizeText size
  | unexpectedShape b size message? =>
    message?.getD (text "Failed to deserialize " ++ b.tag ++ text " response" ++ sizeText size)
  | listOfGenerations b _ =>
    b.tag ++ text " returned a list of generations; " ++
      text "the endpoint is likely the HuggingFace Inference API, use adaptor '" ++
      Backend.huggingFace.tag ++ text "'"
  | inferenceApi error => text "Inference API error: " ++ error
  | tgi error => text "TGI error: " ++ error
  | ollama error => text "Ollama error: " ++ error
  | openAi detail => (text "\n").intercalate (detail.map ErrorDetail.line)

/-- How a failure is shown to a person, its backend first. -/
def report (f : Failure) : Text :=
  (match f.backend? with
    | some b => text "[" ++ b.tag ++ text "] "
    | none => []) ++ f.message

end Failure

end CompletionWire
