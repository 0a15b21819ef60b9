import CompletionWire.Cli.Command
import CompletionWire.Delivery
import CompletionWire.Text.Newline
import CompletionWire.Validation.Display

/-!
# Running a command line

A command line is run in given surroundings: an environment, an input, files, and the script of a
network. What comes of it is a value too: an exit code or an abort, the two outputs, and whatever
was sent. Nothing is written to the first output unless the command has its result.
-/

namespace CompletionWire

namespace Cli

/-- What stands under a name in the file system. -/
inductive FileEntry
  | contents (bytes : Bytes)
  | directory
  | missing

/-- What a command line runs in. -/
structure Surroundings where
  environment : Environment
  runtimeVersion : Text
  input : Bytes
  file : Text → FileEntry
  script : Script

/-- What a command did: its document or its mishap, the events, and what went over the network. -/
structure Conduct where
  events : List Event := []
  requests : List SentRequest := []
  waits : List Binary64 := []
  timeouts : List Binary64 := []
  result : Except Mishap Json

def Conduct.ofResult (result : Except Mishap Json) : Conduct := { result }

def Conduct.ofLogged (x : Logged (Except Mishap Json)) : Conduct :=
  { events := x.events, result := x.value }

/-! ### Parameters -/

/-- How the object of a request is read: leniently, but for the digits of whole numbers. -/
def requestBodyRules : Json.Rules := ⟨some 4300, 990, true⟩

/-- The object that a text writes, if any; a text that writes null stands for none. -/
def objectOf? (t : Text) : Except Mishap (Option Members) :=
  match Json.read requestBodyRules t with
  | .ok .null => .ok none
  | .ok (.object members) => .ok (some members)
  | .ok _ => .error (.rejection .notAnObject)
  | .error .tooDeep => .error (.abort .tooDeep)
  | .error fault => .error (.rejection (.notJson requestBodyRules fault))

/-- The backend that an option or else the settings name, if any. -/
def backend? (adaptor? : Option Text) (s : Settings) : Except Mishap (Option Backend) :=
  match adaptor?.or s.adaptorTag? with
  | none => .ok none
  | some setting =>
    match Backend.ofSetting? setting with
    | some b => .ok (some b)
    | none => .error (.rejection (.unknownAdaptor setting))

/-- The editor that an option or else the settings name. -/
def editor (editor? : Option Text) (s : Settings) : Except Mishap Editor :=
  let tag := editor?.getD s.editorTag
  match Editor.ofTag? tag with
  | some e => .ok e
  | none => .error (.rejection (.unknownEditor tag))

/-- The options about sampling as data to be checked. -/
def GenerationArgs.data (a : GenerationArgs) : Json := .object [
  (GenerationParams.maxNewTokensField.name, a.maxNewTokens),
  (GenerationParams.temperatureField.name, a.temperature),
  (GenerationParams.doSampleField.name, .bool !a.noSample),
  (GenerationParams.topPField.name, a.topP),
  (GenerationParams.stopTokensField.name, .array a.stop)]

/-- The parameters that the options of a request give. -/
def GenerationArgs.params (a : GenerationArgs) (s : Settings) : Except Mishap CompletionParams := do
  let requestBody? ← (a.requestBody?.map objectOf?).getD (Except.ok none)
  let generation ←
    match (GenerationParams.check a.data).toExcept GenerationParams.modelName with
    | .ok p => .ok p
    | .error data => .error (.rejection (.invalid data))
  return { generation, backend? := ← backend? a.adaptor? s, requestBody? }

def GenerationArgs.prompt (a : GenerationArgs) : Prompt := a.prompt?.getD .nothing

/-! ### Input -/

/-- A name that the file system can hold: lone surrogates are allowed where they stand for bytes. -/
def unencodable? (name : Text) : Option LoneSurrogates :=
  let isStray := fun c : CodePoint => c.isSurrogate && !(0xDC80 ≤ c.val && c.val ≤ 0xDCFF)
  match name.dropWhile (!isStray ·) with
  | [] => none
  | c :: rest => some {
      first := c
      start := name.length - rest.length - 1
      count := ((c :: rest).takeWhile (·.isSurrogate)).length }

/-- The text of a file. -/
def fileText (w : Surroundings) (name : Text) : Except Mishap Text :=
  match unencodable? name with
  | some run => .error (.rejection (.notUnicode run))
  | none =>
    if name.contains (CodePoint.ofNat 0) then .error (.rejection .nulInName)
    else
      match w.file name with
      | .missing => .error (.abort (.missingFile name))
      | .directory => .error (.abort (.isDirectory name))
      | .contents bytes =>
        match Utf8.decode? false bytes with
        | .ok t => .ok t.unifyLineEnds
        | .error e => .error (.rejection (.notUtf8 e))

/-- The text of a named file, or of the input for a single hyphen. -/
def inputText (w : Surroundings) (name : Text) : Except Mishap Text :=
  if name = text "-" then .ok (Utf8.decodeEscaping w.input).unifyLineEnds else fileText w name

/-- The name of the input that arguments ask for, if they ask for any. -/
def inputName? (args : List Text) : Option Text :=
  match Invocation.ofArgs args with
  | .ok { command? := some (.parse a), .. } => some a.input
  | _ => none

/-! ### Commands -/

def generationsJson (gs : List Generation) : Json := .array (gs.map Generation.toJson)

def runBody (a : GenerationArgs) (s : Settings) : Conduct :=
  match a.params s with
  | .error m => .ofResult (.error m)
  | .ok p =>
    .ofLogged ((Request.buildBody a.prompt p).map fun
      | .ok body => .ok (.object body)
      | .error f => .error (.failure f))

/-- The headers as an object. -/
def headersJson (hs : Headers) : Json :=
  .object (hs.lowered.map fun (name, value) => (name, .string value))

def runHeaders (a : HeadersArgs) (s : Settings) (w : Surroundings) : Conduct :=
  .ofResult do
    let backend? ← backend? a.adaptor? s
    let editor ← editor a.identity.editor? s
    let hs ← Request.headers backend? (a.identity.token?.or s.token?) editor w.runtimeVersion
    return headersJson hs

/-- The text to be parsed and the backend that it is from. -/
def ParseArgs.source (a : ParseArgs) (s : Settings) (w : Surroundings) :
    Except Mishap (Text × Option Backend) := do
  return (← inputText w a.input, ← backend? a.adaptor? s)

def runParse (a : ParseArgs) (s : Settings) (w : Surroundings) : Conduct :=
  match a.source s w with
  | .error m => .ofResult (.error m)
  | .ok (t, backend?) => .ofLogged ((Response.read backend? t).map fun r => r.map generationsJson)

/-- The call that options ask for, once the parameters are known. -/
def CompleteArgs.call (a : CompleteArgs) (s : Settings) (w : Surroundings)
    (params : CompletionParams) : Except Mishap Call := do
  let editor ← editor a.identity.editor? s
  match a.model?.join with
  | none => throw (.abort .modelWithoutText)
  | some model =>
    return {
      model
      prompt := a.generation.prompt
      params
      token? := a.identity.token?.or s.token?
      editor
      runtimeVersion := w.runtimeVersion }

def runComplete (a : CompleteArgs) (s : Settings) (w : Surroundings) : Conduct :=
  match a.generation.params s with
  | .error m => .ofResult (.error m)
  | .ok params =>
    match a.call s w params with
    | .error m => { timeouts := [s.timeout], result := .error m }
    | .ok call =>
      let d := Delivery.run call s w.script
      { events := d.events
        requests := d.requests
        waits := d.waits
        timeouts := [s.timeout]
        result := d.result.map generationsJson }

def Command.run (c : Command) (w : Surroundings) : Conduct :=
  let s := Settings.ofEnvironment w.environment
  match c with
  | .body a => runBody a s
  | .headers a => runHeaders a s w
  | .parse a => runParse a s w
  | .complete a => runComplete a s w

/-! ### Outcome -/

/-- What a command line comes to: an exit code or an abort, and what it wrote and sent. -/
structure Outcome where
  exit : Except Abort Nat
  output : Text := []
  errors : Text := []
  requests : List SentRequest := []
  waits : List Binary64 := []
  timeouts : List Binary64 := []

/-- The line that tells of a mishap. -/
def errorLine (message : Text) : Text := text "Error: " ++ message ++ text "\n"

/-- A rejection as a person is told of it: invalid data with all its issues. -/
def rejectionReport : Rejection → Text
  | .invalid data => data.display
  | r => r.message

/-- The events that are shown: all of them, or warnings alone. -/
def shownEvents (verbose : Bool) (events : List Event) : Text :=
  (events.filter fun e => verbose || e.level = .warning).flatMap fun e => e.line ++ text "\n"

/-- The exit code and the outputs of a result: one for a failure, two for a rejection. -/
def Conduct.outcome (verbose : Bool) (c : Conduct) : Outcome :=
  let shown := shownEvents verbose c.events
  let base : Outcome := {
    exit := .ok 0
    errors := shown
    requests := c.requests
    waits := c.waits
    timeouts := c.timeouts }
  match c.result with
  | .ok document => { base with output := document.write .indented ++ text "\n" }
  | .error (.failure f) => { base with exit := .ok 1, errors := shown ++ errorLine f.report }
  | .error (.rejection r) =>
    { base with exit := .ok 2, errors := shown ++ errorLine (rejectionReport r) }
  | .error (.abort a) => { base with exit := .error a }

/-- Runs a command line. -/
def run (w : Surroundings) (args : List Text) : Outcome :=
  match Invocation.ofArgs args with
  | .error (.help t) => { exit := .ok 0, output := t }
  | .error (.misuse report) => { exit := .ok 2, errors := report }
  | .ok invocation =>
    match invocation.command? with
    | none => { exit := .ok 1, output := helpText }
    | some command => (command.run w).outcome invocation.verbose

end Cli

end CompletionWire
