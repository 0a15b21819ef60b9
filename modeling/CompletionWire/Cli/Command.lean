import CompletionWire.Cli.Grammar
import CompletionWire.Params
import CompletionWire.Request.Body
import CompletionWire.Settings

/-!
# Commands

The four commands with their options, and how arguments become one of them. Numbers are read when
their option is taken; whether they are good parameters is for the command to find out.
-/

namespace CompletionWire

namespace Cli

structure GenerationArgs where
  adaptor? : Option Text := none
  prompt? : Option Prompt := none
  requestBody? : Option Text := none
  maxNewTokens : Json := .int 60
  temperature : Json := .float (.ofDecimal false 2 (-1))
  topP : Json := .float (.ofDecimal false 95 (-2))
  noSample : Bool := false
  stop : List Json := []

structure IdentityArgs where
  token? : Option Text := none
  editor? : Option Text := none

/-- The options of a request that is sent; a model may be given without a value. -/
structure CompleteArgs where
  generation : GenerationArgs := {}
  model? : Option (Option Text) := none
  identity : IdentityArgs := {}

structure HeadersArgs where
  adaptor? : Option Text := none
  identity : IdentityArgs := {}

structure ParseArgs where
  adaptor? : Option Text := none
  input : Text := text "-"

inductive Command
  | body (a : GenerationArgs)
  | headers (a : HeadersArgs)
  | parse (a : ParseArgs)
  | complete (a : CompleteArgs)

structure Invocation where
  verbose : Bool := false
  command? : Option Command := none
  /-- Arguments that the command left over. -/
  leftOver : List Text := []

/-! ### Values -/

/-- A value that says something. -/
def Argument.text? : Argument → Option Text
  | given t => Settings.nonEmpty? t
  | nothing => none

def Argument.prompt : Argument → Prompt
  | given t => .text t
  | nothing => .nothing

def Argument.json : Argument → Json
  | given t => .string t
  | nothing => .array []

/-- The value that a numeral writes; `kind` is what a refusal calls it. -/
def Argument.numeral (kind : String) (read : Text → Option Json) : Argument → Except Text Json
  | nothing => .ok (.array [])
  | given t =>
    match read t with
    | some v => .ok v
    | none => .error (CompletionWire.text "invalid " ++ CompletionWire.text kind ++
        CompletionWire.text " value: " ++ t.quoted)

def Argument.int (a : Argument) : Except Text Json :=
  a.numeral "int" fun t => (Numeral.int? t).map .int

def Argument.float (a : Argument) : Except Text Json :=
  a.numeral "float" fun t => (Numeral.binary64? t).map .float

/-! ### Options -/

def Opt.value {σ : Type} (name : String) (set : Argument → σ → σ) : Opt σ :=
  ⟨[CompletionWire.text name], .value fun a s => .ok (set a s)⟩

def Opt.number {σ : Type} (name : String) (read : Argument → Except Text Json)
    (set : Json → σ → σ) : Opt σ :=
  ⟨[CompletionWire.text name], .value fun a s => (read a).map (set · s)⟩

def Opt.help {σ : Type} : Opt σ := ⟨[text "-h", text "--help"], .help⟩

/-- The same option on a part of a larger state. -/
def Opt.within {σ τ : Type} (get : τ → σ) (set : σ → τ → τ) (opt : Opt σ) : Opt τ :=
  ⟨opt.names,
    match opt.action with
    | .help => .help
    | .flag apply => .flag fun t => set (apply (get t)) t
    | .value apply => .value fun a t => (apply a (get t)).map (set · t)⟩

def generationOptions : List (Opt GenerationArgs) := [
  .value "--adaptor" fun a s => { s with adaptor? := a.text? },
  .value "--prompt" fun a s => { s with prompt? := some a.prompt },
  .value "--request-body" fun a s => { s with requestBody? := a.text? },
  .number "--max-new-tokens" Argument.int fun v s => { s with maxNewTokens := v },
  .number "--temperature" Argument.float fun v s => { s with temperature := v },
  .number "--top-p" Argument.float fun v s => { s with topP := v },
  ⟨[text "--no-sample"], .flag fun s => { s with noSample := true }⟩,
  .value "--stop" fun a s => { s with stop := s.stop ++ [a.json] }]

def identityOptions : List (Opt IdentityArgs) := [
  .value "--api-token" fun a s => { s with token? := a.text? },
  .value "--ide" fun a s => { s with editor? := a.text? }]

/-! ### Grammars -/

/-- Lines with their ends. -/
def lines (ls : List String) : Text := ls.flatMap fun l => text l ++ text "\n"

def bodyGrammar : Grammar GenerationArgs where
  program := text "llm-adaptors body"
  usage := lines [
    "usage: llm-adaptors body [-h] [--adaptor ADAPTOR] --prompt PROMPT",
    "                         [--request-body REQUEST_BODY]",
    "                         [--max-new-tokens MAX_NEW_TOKENS]",
    "                         [--temperature TEMPERATURE] [--top-p TOP_P]",
    "                         [--no-sample] [--stop STOP]"]
  description := lines [
    "options:",
    "  -h, --help            show this help message and exit",
    "  --adaptor ADAPTOR     huggingface, tgi, ollama or openai (default:",
    "                        $LLM_ADAPTOR or huggingface)",
    "  --prompt PROMPT       Prompt text",
    "  --request-body REQUEST_BODY",
    "                        JSON object; must carry 'model' for ollama/openai",
    "  --max-new-tokens MAX_NEW_TOKENS",
    "  --temperature TEMPERATURE",
    "  --top-p TOP_P",
    "  --no-sample           Disable sampling (do_sample=false)",
    "  --stop STOP           Stop token (repeatable)"]
  options := .help :: generationOptions
  operand := .none
  missing s := if s.prompt?.isNone then [text "--prompt"] else []

def headersGrammar : Grammar HeadersArgs where
  program := text "llm-adaptors headers"
  usage := lines [
    "usage: llm-adaptors headers [-h] [--adaptor ADAPTOR] [--api-token API_TOKEN]",
    "                            [--ide IDE]"]
  description := lines [
    "options:",
    "  -h, --help            show this help message and exit",
    "  --adaptor ADAPTOR     huggingface, tgi, ollama or openai (default:",
    "                        $LLM_ADAPTOR or huggingface)",
    "  --api-token API_TOKEN",
    "                        Bearer token (default: $LLM_API_TOKEN or $HF_TOKEN)",
    "  --ide IDE             Editor identity (default: $LLM_IDE or unknown)"]
  options := .help :: .value "--adaptor" (fun a s => { s with adaptor? := a.text? }) ::
    identityOptions.map (.within HeadersArgs.identity fun i s => { s with identity := i })
  operand := .none
  missing _ := []

def parseGrammar : Grammar ParseArgs where
  program := text "llm-adaptors parse"
  usage := lines ["usage: llm-adaptors parse [-h] [--adaptor ADAPTOR] [input]"]
  description := lines [
    "positional arguments:",
    "  input              Response file (default: stdin)",
    "",
    "options:",
    "  -h, --help         show this help message and exit",
    "  --adaptor ADAPTOR  huggingface, tgi, ollama or openai (default: $LLM_ADAPTOR",
    "                     or huggingface)"]
  options := [.help, .value "--adaptor" fun a s => { s with adaptor? := a.text? }]
  operand := .one fun name? s => { s with input := name?.getD (text "-") }
  missing _ := []

def completeGrammar : Grammar CompleteArgs where
  program := text "llm-adaptors complete"
  usage := lines [
    "usage: llm-adaptors complete [-h] [--adaptor ADAPTOR] --prompt PROMPT",
    "                             [--request-body REQUEST_BODY]",
    "                             [--max-new-tokens MAX_NEW_TOKENS]",
    "                             [--temperature TEMPERATURE] [--top-p TOP_P]",
    "                             [--no-sample] [--stop STOP] --model MODEL",
    "                             [--api-token API_TOKEN] [--ide IDE]"]
  description := bodyGrammar.description ++ lines [
    "  --model MODEL         Endpoint URL or HuggingFace model id",
    "  --api-token API_TOKEN",
    "  --ide IDE"]
  options := .help ::
    (generationOptions.map
        (.within CompleteArgs.generation fun a s => { s with generation := a }) ++
      .value "--model" (fun
        | .given t, s => { s with model? := some (some t) }
        | .nothing, s => { s with model? := some none }) ::
      identityOptions.map (.within CompleteArgs.identity fun i s => { s with identity := i }))
  operand := .none
  missing s := (if s.generation.prompt?.isNone then [text "--prompt"] else []) ++
    if s.model?.isNone then [text "--model"] else []

def usage : Text :=
  lines ["usage: llm-adaptors [-h] [--verbose] \x7bbody,headers,parse,complete\x7d ..."]

def program : Text := text "llm-adaptors"

def description : Text := lines [
  "Build and parse LLM backend completion requests.",
  "",
  "positional arguments:",
  "  \x7bbody,headers,parse,complete\x7d",
  "    body                Print the JSON request body",
  "    headers             Print the request headers",
  "    parse               Parse a raw response body",
  "    complete            Send a request and print the generations",
  "",
  "options:",
  "  -h, --help            show this help message and exit",
  "  --verbose, -v         Enable debug logging"]

def helpText : Text := usage ++ text "\n" ++ description

/-- A broken rule about the arguments before the command. -/
def misuse (reason : Text) : Ending :=
  .misuse (usage ++ program ++ text ": error: " ++ reason ++ text "\n")

/-- Hands the arguments behind a command's name to its grammar. -/
def command (args : List Text) (s : Invocation) : Except Ending Invocation :=
  let name := args.headD []
  let rest := args.drop 1
  if name = text "body" then
    (bodyGrammar.parse {} rest).map fun (a, leftOver) =>
      { s with command? := some (.body a), leftOver }
  else if name = text "headers" then
    (headersGrammar.parse {} rest).map fun (a, leftOver) =>
      { s with command? := some (.headers a), leftOver }
  else if name = text "parse" then
    (parseGrammar.parse {} rest).map fun (a, leftOver) =>
      { s with command? := some (.parse a), leftOver }
  else if name = text "complete" then
    (completeGrammar.parse {} rest).map fun (a, leftOver) =>
      { s with command? := some (.complete a), leftOver }
  else
    .error (misuse (text "argument command: invalid choice: " ++ name.quoted ++
      text " (choose from 'body', 'headers', 'parse', 'complete')"))

def grammar : Grammar Invocation where
  program := program
  usage := usage
  description := description
  options := [.help, ⟨[text "--verbose", text "-v"], .flag fun s => { s with verbose := true }⟩]
  operand := .rest command
  missing _ := []

/-- What a command line asks for. -/
def Invocation.ofArgs (args : List Text) : Except Ending Invocation := do
  let (invocation, leftOver) ← grammar.parse {} args
  match leftOver ++ invocation.leftOver with
  | [] => return invocation
  | several => throw (misuse (text "unrecognized arguments: " ++ (text " ").intercalate several))

end Cli

end CompletionWire
