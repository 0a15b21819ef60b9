import CompletionWire.Mishap
import CompletionWire.Request.Body
import CompletionWire.Settings

/-!
# Sessions

A session keeps parameters under names. Data that is stored makes an origin, which holds what came
from it: the generation parameters and the request object. A copy is a name with a backend of its
own, and it belongs to the origin of what was copied. A request object may be changed through every
name of its origin; nothing else of stored parameters changes until their name is stored again.
Beside the names a session keeps its environment and the body that was built last, which shares
nothing with any parameters.
-/

namespace CompletionWire

/-- What the parameters that were copied from one another have in common. -/
structure Origin where
  generation : GenerationParams
  requestBody? : Option Members

/-- Parameters under a name: the number of their origin and their own backend. -/
structure Stored where
  origin : Nat
  backend? : Option Backend
deriving DecidableEq

structure Session where
  environment : Environment := []
  origins : List Origin := []
  names : List (Text × Stored) := []
  lastBody? : Option Members := none

namespace Session

/-! ### Looking up -/

def stored? (s : Session) (name : Text) : Option Stored := (s.names.find? (·.1 = name)).map (·.2)

/-- The parameters that something stored stands for. -/
def read? (s : Session) (p : Stored) : Option CompletionParams :=
  (s.origins[p.origin]?).map fun o =>
    { generation := o.generation, backend? := p.backend?, requestBody? := o.requestBody? }

def params? (s : Session) (name : Text) : Option CompletionParams := (s.stored? name).bind s.read?

/-- What stands under a name, and the parameters that it stands for. -/
def find? (s : Session) (name : Text) : Option (Stored × CompletionParams) :=
  (s.stored? name).bind fun p => (s.read? p).map (p, ·)

/-! ### Storing -/

def store (s : Session) (name : Text) (p : Stored) : Session :=
  { s with names := (name, p) :: s.names.filter (·.1 ≠ name) }

/-- Stores parameters as an origin of their own. -/
def storeNew (s : Session) (name : Text) (p : CompletionParams) : Session :=
  Session.store { s with origins := s.origins ++ [⟨p.generation, p.requestBody?⟩] } name
    ⟨s.origins.length, p.backend?⟩

def setOrigin (s : Session) (number : Nat) (o : Origin) : Session :=
  { s with origins := s.origins.set number o }

@[simp]
theorem stored?_store_self (s : Session) (name : Text) (p : Stored) :
    (s.store name p).stored? name = some p := by
  simp [store, stored?]

@[simp]
theorem stored?_store_of_ne (s : Session) {name other : Text} (p : Stored) (h : other ≠ name) :
    (s.store name p).stored? other = s.stored? other := by
  simp only [store, stored?, List.find?_cons, decide_eq_false (Ne.symm h), List.find?_filter]
  congr 2
  funext m
  grind

@[simp]
theorem stored?_setOrigin (s : Session) (number : Nat) (o : Origin) (name : Text) :
    (s.setOrigin number o).stored? name = s.stored? name := rfl

/-! ### Equality -/

/-- Equality of two stored sets of parameters: what one origin holds equals itself, and else the
values are compared. -/
def equal (p q : Stored × CompletionParams) : Bool :=
  p.2.backend? = q.2.backend? &&
    (p.1.origin = q.1.origin ||
      p.2.generation.equals q.2.generation &&
        match p.2.requestBody?, q.2.requestBody? with
        | some ms, some ns => (Json.object ms).agrees (.object ns)
        | none, none => true
        | _, _ => false)

/-! ### Operations -/

/-- What may be asked of a session. -/
inductive Operation
  | setEnvironment (unset : List Text) (set : Environment)
  | new (name : Text) (data : Json)
  | assign (name field : Text) (value : Json) (onGeneration : Bool)
  | put (name key : Text) (value : Json)
  | drop (name key : Text)
  | copy (name target : Text) (tag? : Option Text)
  | equal (first second : Text)
  | build (name prompt : Text)
  | scribble (name stop : Text)

/-- Why a session cannot do what it is asked. -/
inductive Obstacle
  | noParams (name : Text)
  | noRequestBody
  | noKey (key : Text)
  | noBody
deriving DecidableEq

def Obstacle.message : Obstacle → Text
  | noParams name => text "no params " ++ name
  | noRequestBody => text "no request_body"
  | noKey key => text "no key " ++ key
  | noBody => text "no body"

/-- What a session answers; parameters are those under the name in question, afterwards. -/
inductive Reply
  | environment (env : Environment)
  | params (p : CompletionParams)
  | assigned (p : CompletionParams)
  | frozen (data : Invalid) (p : CompletionParams)
  | equal (answer : Bool)
  | body (b : Members)
  | scribbled (changed : Members) (p : CompletionParams)
  | obstacle (o : Obstacle)
  | mishap (m : Mishap)

/-- Unsets and then sets variables. -/
def changeEnvironment (env : Environment) (unset : List Text) (set : Environment) : Environment :=
  set.foldl (fun e v => e.insert v.1 v.2) (unset.foldl (fun e name => e.erase name) env)

/-- Checks data and stores what it describes. -/
def storeData (s : Session) (name : Text) (data : Json) : Session × Reply :=
  match (CompletionParams.check data).toExcept CompletionParams.modelName with
  | .error invalid => (s, .mishap (.rejection (.invalid invalid)))
  | .ok p => (s.storeNew name p, .params p)

/-- Fields cannot be assigned; what begins with an underscore is no field, and nothing comes of
it. -/
def assign (s : Session) (name field : Text) (value : Json) (onGeneration : Bool) : Reply :=
  match s.params? name with
  | none => .obstacle (.noParams name)
  | some p =>
    if field.startsWith (text "_") then .assigned p
    else
      let model := if onGeneration then GenerationParams.modelName else CompletionParams.modelName
      .frozen ⟨model, [⟨.frozen, [.key field], value⟩]⟩ p

/-- Changes the request object that a name gives access to. -/
def changeObject (s : Session) (name : Text) (change : Members → Except Obstacle Members) :
    Session × Reply :=
  match s.find? name with
  | none => (s, .obstacle (.noParams name))
  | some (stored, p) =>
    match p.requestBody? with
    | none => (s, .obstacle .noRequestBody)
    | some members =>
      match change members with
      | .error o => (s, .obstacle o)
      | .ok changed =>
        (s.setOrigin stored.origin ⟨p.generation, some changed⟩,
          .params { p with requestBody? := some changed })

/-- Removes a member that must be there. -/
def dropMember (key : Text) (members : Members) : Except Obstacle Members :=
  if (members.find? key).isSome then .ok (members.drop key) else .error (.noKey key)

/-- Stores a copy, whose backend is replaced when a tag is given. -/
def copy (s : Session) (name target : Text) (tag? : Option Text) : Session × Reply :=
  match s.find? name with
  | none => (s, .obstacle (.noParams name))
  | some (stored, p) =>
    match tag? with
    | none => (s.store target stored, .params p)
    | some tag =>
      match Backend.ofTag? tag with
      | none => (s, .mishap (.rejection (.unknownBackend tag)))
      | some b =>
        (s.store target { stored with backend? := some b }, .params { p with backend? := some b })

def compare (s : Session) (first second : Text) : Reply :=
  match s.find? first, s.find? second with
  | none, _ => .obstacle (.noParams first)
  | _, none => .obstacle (.noParams second)
  | some p, some q => .equal (equal p q)

/-- Builds a body and keeps it. -/
def build (s : Session) (name prompt : Text) : Session × Logged Reply :=
  match s.params? name with
  | none => (s, .silent (.obstacle (.noParams name)))
  | some p =>
    let built := Request.buildBody (.text prompt) p
    match built.value with
    | .error f => (s, ⟨built.events, .mishap (.failure f)⟩)
    | .ok b => ({ s with lastBody? := some b }, ⟨built.events, .body b⟩)

/-- Adds a stop text to the body that was built last, and shows the parameters under a name. -/
def scribble (s : Session) (name stop : Text) : Session × Reply :=
  match s.lastBody? with
  | none => (s, .obstacle .noBody)
  | some b =>
    let changed := Request.addStop stop b
    ({ s with lastBody? := some changed },
      match s.params? name with
      | none => .obstacle (.noParams name)
      | some p => .scribbled changed p)

def apply (s : Session) : Operation → Session × Logged Reply
  | .setEnvironment unset set =>
    let env := changeEnvironment s.environment unset set
    ({ s with environment := env }, .silent (.environment env))
  | .new name data => (s.storeData name data).map id .silent
  | .assign name field value onGeneration => (s, .silent (s.assign name field value onGeneration))
  | .put name key value => (s.changeObject name fun ms => .ok (ms.put key value)).map id .silent
  | .drop name key => (s.changeObject name (dropMember key)).map id .silent
  | .copy name target tag? => (s.copy name target tag?).map id .silent
  | .equal first second => (s, .silent (s.compare first second))
  | .build name prompt => s.build name prompt
  | .scribble name stop => (s.scribble name stop).map id .silent

end Session

end CompletionWire
