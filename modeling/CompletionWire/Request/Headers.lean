import CompletionWire.Mishap

/-!
# Headers of requests

Every backend but Ollama is told who asks, and is shown a token if there is one. A field value may
hold tabs but no other control character; it is stored as UTF-8, which lone surrogates do not have.
-/

namespace CompletionWire

abbrev Headers := List (Text × Text)

namespace Request

/-- A tab or anything that is not a control character of ASCII. -/
def isFieldCodePoint (c : CodePoint) : Bool := c.val = 9 || (0x20 ≤ c.val && c.val ≠ 0x7F)

/-- A value that may stand in a header. -/
def headerValue (name value : Text) (backend? : Option Backend) : Except Failure Text :=
  if value.all isFieldCodePoint then .ok value else .error (.invalidHeader name backend?)

/-- The product, the version of the runtime and the editor. -/
def userAgent (editor : Editor) (runtimeVersion : Text) : Text :=
  text "llm-adaptors/0.1.0; python/" ++
    (if runtimeVersion.isEmpty then text "unknown" else runtimeVersion) ++
    text "; ide/" ++ editor.tag

/-- A header whose value is legal and has a byte form. -/
def header (backend : Backend) (name value : Text) : Except Mishap (Text × Text) :=
  match headerValue name value (some backend) with
  | .error f => .error (.failure f)
  | .ok value =>
    match value.encode? with
    | .error run => .error (.rejection (.notUnicode run))
    | .ok _ => .ok (name, value)

/-- The User-Agent, and the token if there is one. -/
def tokenHeaders (backend : Backend) (token? : Option Text) (editor : Editor)
    (runtimeVersion : Text) : Except Mishap Headers := do
  let agent ← header backend (text "User-Agent") (userAgent editor runtimeVersion)
  match token? with
  | none => return [agent]
  | some token => return [agent, ← header backend (text "Authorization") (text "Bearer " ++ token)]

def headers (selected? : Option Backend) (token? : Option Text) (editor : Editor)
    (runtimeVersion : Text) : Except Mishap Headers :=
  match Backend.resolve selected? with
  | .ollama => .ok []
  | backend => tokenHeaders backend token? editor runtimeVersion

end Request

/-- The headers as they are looked up: by names without capitals. -/
def Headers.lowered (headers : Headers) : List (Text × Text) :=
  headers.map fun (name, value) => (name.map CodePoint.asciiLower, value)

end CompletionWire
