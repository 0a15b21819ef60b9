import CompletionWire.Decimal.Layout
import CompletionWire.Failure
import CompletionWire.Json.Reader
import CompletionWire.Network

/-!
# Events

What a call reports while it runs. An event has a level, the name of the part that reports it, and a
message; messages give sizes and counts, never payloads.
-/

namespace CompletionWire

inductive Event
  | buildingBody (backend : Backend) (promptLength : Nat)
  | notJson (backend : Backend) (size : Nat) (reason : Text)
  | listOfGenerations (count : Nat)
  | parsed (count : Nat) (backend : Backend)
  | responded (backend : Backend) (status : Int) (url : Text)
  | retrying (wait : Binary64) (error : NetworkError)
deriving DecidableEq

/-- How urgent an event is. -/
inductive Level
  | debug
  | warning
deriving DecidableEq

def Level.name : Level → Text
  | debug => text "DEBUG"
  | warning => text "WARNING"

namespace Event

def level : Event → Level
  | listOfGenerations _ | retrying _ _ => .warning
  | _ => .debug

def source : Event → Text
  | buildingBody _ _ | parsed _ _ => text "llm_adaptors.adaptors.dispatch"
  | notJson _ _ _ => text "llm_adaptors.adaptors.common"
  | listOfGenerations _ => text "llm_adaptors.adaptors.huggingface"
  | responded _ _ _ | retrying _ _ => text "llm_adaptors.client"

def message : Event → Text
  | buildingBody b length =>
    text "Building " ++ b.tag ++ text " request body (" ++ Text.ofNat length ++
      text " chars of prompt)"
  | notJson b size reason =>
    b.tag ++ text " response is not JSON (" ++ Text.ofNat size ++ text " bytes): " ++ reason
  | listOfGenerations count =>
    text "TGI adaptor received " ++ Text.ofNat count ++
      text " generations, expected a single object"
  | parsed count b =>
    text "Parsed " ++ Text.ofNat count ++ text " generation(s) from " ++ b.tag ++ text " response"
  | responded b status url =>
    b.tag ++ text " responded " ++ Text.ofInt status ++ text " from " ++ url
  | retrying wait error =>
    text "Retrying llm_adaptors.client._post.<locals>.post_with_retry in " ++
      wait.writeThreeDigits ++ text " seconds as it raised " ++ error.name ++ text ": " ++
      error.message ++ text "."

/-- An event on one line, behind the part that reports it. -/
def line (e : Event) : Text := e.source ++ text " " ++ e.message

end Event

/-- A value and the events on the way to it, in order. -/
structure Logged (α : Type) where
  events : List Event
  value : α

namespace Logged

/-- A value reached without an event. -/
def silent {α : Type} (value : α) : Logged α := ⟨[], value⟩

def map {α β : Type} (f : α → β) (x : Logged α) : Logged β := ⟨x.events, f x.value⟩

/-- Continues with a value, its events going first. -/
def andThen {α β : Type} (x : Logged α) (f : α → Logged β) : Logged β :=
  ⟨x.events ++ (f x.value).events, (f x.value).value⟩

end Logged

end CompletionWire
