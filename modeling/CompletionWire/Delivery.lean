import CompletionWire.Json.Writer
import CompletionWire.Request.Body
import CompletionWire.Request.Headers
import CompletionWire.Response.ContentType
import CompletionWire.Response.Generations
import CompletionWire.Settings

/-!
# Delivery

A request is prepared once and sent until a response or a final error arrives or the attempts are
used up. What arrives is given beforehand as a script, attempt by attempt; behind its end no
connection comes about. A delivery tells what was sent, how long was waited between attempts, and
what came of it.
-/

namespace CompletionWire

/-- A response as it arrives; its status takes no part in what is made of it. -/
structure Answer where
  status : Int
  contentType? : Option Text
  body : Bytes

namespace Answer

/-- The body as a text. An empty one is the empty text, whatever the content type says. -/
def text (a : Answer) : Except Mishap Text :=
  if a.body.isEmpty then .ok []
  else do
    let charset ← ContentType.charset a.contentType?
    (charset.decodeReplacing a.body).mapError Mishap.ofCharsetFault

end Answer

/-- What arrives at an attempt. -/
inductive Reception
  | answer (a : Answer)
  | error (e : NetworkError)

abbrev Script := List Reception

structure Call where
  model : Text
  prompt : Prompt
  params : CompletionParams
  token? : Option Text
  editor : Editor
  runtimeVersion : Text

/-- A request as it is sent: a POST of JSON. -/
structure SentRequest where
  url : Url
  authorization? : Option Text
  userAgent? : Option Text
  body : Text
deriving DecidableEq

/-! ### Attempts -/

/-- How often and after what waits a request is sent. -/
structure Policy where
  attempts : Int
  leastWait : Binary64
  mostWait : Binary64

namespace Policy

def ofSettings (s : Settings) : Except Mishap Policy :=
  let least := Binary64.ofInt s.leastWait
  let most := Binary64.ofInt s.mostWait
  if least.isFinite && most.isFinite then .ok ⟨s.attempts, least, most⟩
  else .error (.abort .waitTooLarge)

/-- How many attempts there may be behind the first one. -/
def retries (p : Policy) : Nat := (p.attempts - 1).toNat

/-- The wait behind attempt `n`: it doubles from one second on between its bounds, of which the
lower one counts. -/
def wait (p : Policy) (n : Nat) : Binary64 :=
  let doubled := Binary64.ofInt (Nat.pow 2 (n - 1))
  ((Binary64.zero false).larger p.leastWait).larger (doubled.smaller p.mostWait)

end Policy

namespace Script

/-- What arrives when a script has nothing left. -/
def exhausted : NetworkError := .transport .connect (CompletionWire.text "script exhausted")

def next (script : Script) : Reception := script.head?.getD (.error exhausted)

end Script

/-- The way from the first attempt to the last one. -/
structure Trace where
  waits : List Binary64
  events : List Event
  outcome : Except NetworkError Answer

/-- A wait and another attempt in front of a trace. -/
def Trace.after (wait : Binary64) (e : NetworkError) (rest : Trace) : Trace :=
  { rest with waits := wait :: rest.waits, events := .retrying wait e :: rest.events }

/-- Makes attempt `n`, behind which `retries` more are allowed. -/
def Trace.run (p : Policy) (retries n : Nat) (script : Script) : Trace :=
  match script.next with
  | .answer a => ⟨[], [], .ok a⟩
  | .error e =>
    match retries with
    | 0 => ⟨[], [], .error e⟩
    | retries + 1 =>
      if e.isTransport then (Trace.run p retries (n + 1) script.tail).after (p.wait n) e
      else ⟨[], [], .error e⟩

/-! ### Preparation -/

/-- How much of a body is written. -/
def Request.wireLimits : Json.Limits := ⟨Numeral.maxDigits, 990⟩

/-- A body as it is sent. All of it is written before the first of its bytes is made, which lone
surrogates do not have. -/
def Request.wireText (body : Members) : Except Mishap Text :=
  match (Json.object body).writeFault? wireLimits with
  | some fault => .error (.ofWriteFault fault)
  | none =>
    let written := (Json.object body).write .compact
    match written.encode? with
    | .error run => .error (.rejection (.notUnicode run))
    | .ok _ => .ok written

namespace Call

def header? (name : String) (headers : Headers) : Option Text :=
  (headers.find? (·.1 = text name)).map (·.2)

/-- The request that a built body and built headers make, and how to send it. -/
def assemble (c : Call) (s : Settings) (body : Members) (headers : Headers) :
    Except Mishap (SentRequest × Policy) := do
  let policy ← Policy.ofSettings s
  let url ← (Url.ofText (Url.ofModel c.model)).mapError Mishap.ofUrlFault
  let written ← Request.wireText body
  url.checkHost.mapError Mishap.ofHostFault
  return ({
    url
    authorization? := url.basicAuthorization?.or (header? "Authorization" headers)
    userAgent? := header? "User-Agent" headers
    body := written }, policy)

/-- Builds the body, then the headers, then the request. -/
def prepare (c : Call) (s : Settings) : Logged (Except Mishap (SentRequest × Policy)) :=
  (Request.buildBody c.prompt c.params).map fun
    | .error f => .error (.failure f)
    | .ok body => do
      let headers ← Request.headers c.params.backend? c.token? c.editor c.runtimeVersion
      c.assemble s body headers

end Call

/-- What was sent, how long was waited in between, what was reported, and what came of it. -/
structure Delivery where
  requests : List SentRequest
  waits : List Binary64
  events : List Event
  result : Except Mishap (List Generation)

namespace Delivery

/-- What a response is worth: a URL without a scheme has no answers, and a content type is ASCII. -/
def accept (url : Url) (a : Answer) : Except Mishap Answer :=
  match (a.contentType?.getD []).notAscii? with
  | some run => .error (.rejection (.notAscii run))
  | none =>
    if url.scheme.isEmpty then .error (.rejection (.unknownUrlType url.toText)) else .ok a

/-- The outcome of the last attempt: the generations of a response, or the error itself. -/
def conclude (c : Call) (url : Url) :
    Except NetworkError Answer → Logged (Except Mishap (List Generation))
  | .error e => .silent (.error (.abort (.network e)))
  | .ok a =>
    match accept url a with
    | .error m => .silent (.error m)
    | .ok a =>
      (Logged.mk [.responded c.params.backend a.status (Url.ofModel c.model)] a.text).andThen fun
        | .error m => .silent (.error m)
        | .ok t => Response.read c.params.backend? t

def run (c : Call) (s : Settings) (script : Script) : Delivery :=
  let prepared := c.prepare s
  match prepared.value with
  | .error m => ⟨[], [], prepared.events, .error m⟩
  | .ok (request, policy) =>
    let trace := Trace.run policy policy.retries 1 script
    let conclusion := conclude c request.url trace.outcome
    { requests := List.replicate (trace.waits.length + 1) request
      waits := trace.waits
      events := prepared.events ++ trace.events ++ conclusion.events
      result := conclusion.value }

end Delivery

end CompletionWire
