import CompletionWire.Validation.Issue

/-!
# Checks

A check turns data into a value or lists every issue it finds. Checks of several fields run side by
side, so that the issues of all of them are listed, in the order of the fields.
-/

namespace CompletionWire

/-- The outcome of a check. -/
inductive Checked (α : Type)
  | valid (value : α)
  | invalid (issues : List Issue)

namespace Checked

def map {α β : Type} (f : α → β) : Checked α → Checked β
  | valid a => valid (f a)
  | invalid issues => invalid issues

/-- Runs two checks side by side and lists the issues of both. -/
def andMap {α β : Type} : Checked (α → β) → Checked α → Checked β
  | valid f, valid a => valid (f a)
  | valid _, invalid issues => invalid issues
  | invalid issues, valid _ => invalid issues
  | invalid issues, invalid more => invalid (issues ++ more)

/-- Continues with what a check found. -/
def andThen {α β : Type} (x : Checked α) (f : α → Checked β) : Checked β :=
  match x with
  | valid a => f a
  | invalid issues => invalid issues

instance : Applicative Checked where
  pure := valid
  map := map
  seq f x := andMap f (x ())

/-- A single issue, at the value itself. -/
def refuse {α : Type} (rule : Rule) (input : Json) : Checked α := invalid [⟨rule, [], input⟩]

/-- Moves the issues of a check below a step. -/
def under {α : Type} (step : Step) : Checked α → Checked α
  | valid a => valid a
  | invalid issues => invalid (issues.map fun issue => { issue with path := step :: issue.path })

/-- Checks the items of a list, the first of which has number `start`. -/
def items {α : Type} (check : Json → Checked α) (start : Nat) : List Json → Checked (List α)
  | [] => valid []
  | v :: rest => List.cons <$> (check v).under (.item start) <*> items check (start + 1) rest

/-- The value that a check found, if it found no issue. -/
def toOption {α : Type} : Checked α → Option α
  | valid a => some a
  | invalid _ => none

/-- The outcome of checking data for a model. -/
def toExcept {α : Type} (model : Text) : Checked α → Except Invalid α
  | valid a => .ok a
  | invalid issues => .error ⟨model, issues⟩

end Checked

/-- A field of a model: its name and the name it has on the wire. -/
structure Field where
  name : Text
  wire : Text

namespace Field

/-- The member that gives a field and the key it was found under; the wire name goes first. -/
def find? (field : Field) (members : Members) : Option (Text × Json) :=
  match members.find? field.wire with
  | some v => some (field.wire, v)
  | none => (members.find? field.name).map (field.name, ·)

/-- Checks a field that must be given. -/
def required {α : Type} (field : Field) (check : Json → Checked α) (members : Members) :
    Checked α :=
  match field.find? members with
  | some (k, v) => (check v).under (.key k)
  | none => .invalid [⟨.missing, [.key field.wire], .object members⟩]

/-- Checks a field that may be left out. -/
def optional {α : Type} (field : Field) (default : α) (check : Json → Checked α)
    (members : Members) : Checked α :=
  match field.find? members with
  | some (k, v) => (check v).under (.key k)
  | none => .valid default

/-- The key of a field in one of the two spellings. -/
def key (field : Field) (onWire : Bool) : Text := if onWire then field.wire else field.name

end Field

end CompletionWire
