import CompletionWire.Text.Digit
import CompletionWire.Text.Quoted

/-!
# Command-line grammars

A grammar is a list of options and at most one operand. Arguments are first told apart, all of them,
then taken from left to right: an option takes the argument behind it or the text behind its equals
sign, and what no rule takes is left over. Long names may be cut short as long as one option is
meant, short flags may be run together, and two hyphens end the options.
-/

namespace CompletionWire

namespace Cli

def hyphen : CodePoint := CodePoint.ofChar '-'

def doubleHyphen : Text := [hyphen, hyphen]

/-- The value of an option; two hyphens behind an equals sign are no value at all. -/
inductive Argument
  | given (t : Text)
  | nothing

def Argument.ofText (t : Text) : Argument := if t = doubleHyphen then nothing else given t

/-- Why arguments are not taken to their end: help is asked for, or a rule is broken. -/
inductive Ending
  | help (t : Text)
  | misuse (report : Text)

/-- What an option does to the state of the grammar; a value may be refused with a reason. -/
inductive Action (σ : Type)
  | help
  | flag (apply : σ → σ)
  | value (apply : Argument → σ → Except Text σ)

structure Opt (σ : Type) where
  names : List Text
  action : Action σ

/-- What becomes of arguments that are no options. -/
inductive Operand (σ : Type)
  | none
  | one (apply : Option Text → σ → σ)
  | rest (apply : List Text → σ → Except Ending σ)

structure Grammar (σ : Type) where
  program : Text
  usage : Text
  description : Text
  options : List (Opt σ)
  operand : Operand σ
  /-- The names of required options that have not been given. -/
  missing : σ → List Text

namespace Grammar

variable {σ : Type} (g : Grammar σ)

/-! ### Reports -/

def help : Ending := .help (g.usage ++ text "\n" ++ g.description)

def misuse (reason : Text) : Ending :=
  .misuse (g.usage ++ g.program ++ text ": error: " ++ reason ++ text "\n")

/-- A broken rule about one option. -/
def misuseOf (opt : Opt σ) (reason : Text) : Ending :=
  g.misuse (text "argument " ++ (text "/").intercalate opt.names ++ text ": " ++ reason)

/-! ### Telling arguments apart -/

/-- An option that an argument names, the name, and the value behind its equals sign. -/
structure Found (σ : Type) where
  opt : Opt σ
  name : Text
  value? : Option Text

/-- An argument before two hyphens. -/
inductive Token (σ : Type)
  | operand (t : Text)
  | option (t : Text) (found? : Option (Found σ))

def Token.text : Token σ → Text
  | .operand t | .option t _ => t

/-- Arguments told apart, and the operands behind two hyphens if there are any. -/
structure Tokens (σ : Type) where
  before : List (Token σ)
  behind? : Option (List Text)

/-- Two hyphens and the operands behind them as they were given. -/
def withHyphens : Option (List Text) → List Text
  | some behind => doubleHyphen :: behind
  | none => []

def names : List (Text × Opt σ) := g.options.flatMap fun opt => opt.names.map (·, opt)

def find? (name : Text) : Option (Opt σ) := (g.names.find? (·.1 = name)).map (·.2)

/-- A minus sign before digits, or before digits with a point among them that are not the last. -/
def isNegativeNumber (t : Text) : Bool :=
  let isDigit := fun c : CodePoint => c.decimalValue?.isSome
  let isEnd := fun rest : Text => rest.isEmpty || rest = [CodePoint.ofChar '\n']
  match t with
  | c :: body =>
    let behind := body.dropWhile isDigit
    c = hyphen &&
      ((isEnd behind && behind.length < body.length) ||
        (match behind with
          | p :: fraction =>
            p = CodePoint.ofChar '.' && isEnd (fraction.dropWhile isDigit) &&
              fraction.head?.any isDigit
          | [] => false))
  | [] => false

/-- The options that an argument may mean without naming one in full. -/
def candidates (t : Text) : List (Found σ) :=
  if t.startsWith doubleHyphen then
    let (start, value?) := Text.cutAt (CodePoint.ofChar '=') t
    (g.names.filter (·.1.startsWith start)).map fun (name, opt) => ⟨opt, name, value?⟩
  else
    g.names.filterMap fun (name, opt) =>
      if name = t.take 2 then some ⟨opt, name, some (t.drop 2)⟩
      else if name.startsWith t then some ⟨opt, name, none⟩
      else none

/-- The option that an argument names in full, a value behind an equals sign apart. -/
def fullName? (t : Text) : Option (Found σ) :=
  match g.find? t with
  | some opt => some ⟨opt, t, none⟩
  | none =>
    match Text.cutAt (CodePoint.ofChar '=') t with
    | (name, some value) => (g.find? name).map fun opt => ⟨opt, name, some value⟩
    | _ => none

def token (t : Text) : Except Ending (Token σ) :=
  if t.head? ≠ some hyphen ∨ t = [hyphen] then .ok (.operand t)
  else
    match g.fullName? t with
    | some found => .ok (.option t (some found))
    | none =>
      match g.candidates t with
      | [found] => .ok (.option t (some found))
      | [] =>
        if isNegativeNumber t || t.contains (CodePoint.ofChar ' ') then .ok (.operand t)
        else .ok (.option t none)
      | several =>
        .error (g.misuse (text "ambiguous option: " ++ t ++ text " could match " ++
          (text ", ").intercalate (several.map Found.name)))

def tokens : List Text → Except Ending (Tokens σ)
  | [] => .ok ⟨[], none⟩
  | t :: rest =>
    if t = doubleHyphen then .ok ⟨[], some rest⟩
    else
      match g.token t with
      | .error e => .error e
      | .ok first => (tokens rest).map fun later => { later with before := first :: later.before }

/-! ### Taking arguments -/

def ignoredValue (opt : Opt σ) (value : Text) : Ending :=
  g.misuseOf opt (text "ignored explicit argument " ++ value.quoted)

/-- The flags that are run together behind a short flag. -/
def flagRun (opt : Opt σ) : Text → Except Ending (List (Opt σ))
  | [] => .ok [opt]
  | c :: rest =>
    match g.find? [hyphen, c] with
    | some next => (flagRun next rest).map (opt :: ·)
    | none => .error (g.ignoredValue opt (c :: rest))

def flags (found : Found σ) : Except Ending (List (Opt σ)) :=
  match found.value? with
  | none => .ok [found.opt]
  | some value =>
    if found.name.startsWith doubleHyphen || value.isEmpty then
      .error (g.ignoredValue found.opt value)
    else g.flagRun found.opt value

def applyFlag (s : σ) (opt : Opt σ) : Except Ending σ :=
  match opt.action with
  | .help => .error g.help
  | .flag apply => .ok (apply s)
  | .value _ => .error (g.misuseOf opt (text "expected one argument"))

def applyValue (s : σ) (opt : Opt σ) (apply : Argument → σ → Except Text σ) (a : Argument) :
    Except Ending σ :=
  (apply a s).mapError (g.misuseOf opt)

/-- Whether the operand has been taken; right behind it, two hyphens belong to it. -/
inductive Phase
  | pending
  | justTaken
  | closed
deriving DecidableEq

/-- The state behind the arguments taken so far, and those left over, latest first. -/
structure Taken (σ : Type) where
  state : σ
  phase : Phase := .pending
  leftOver : List Text := []

/-- Behind an option, two hyphens no longer belong to the operand. -/
def Taken.behindOption (done : Taken σ) (state : σ) : Taken σ :=
  { done with state, phase := if done.phase = .justTaken then .closed else done.phase }

def Taken.leave (done : Taken σ) (ts : List Text) : Taken σ :=
  { done with
    phase := if done.phase = .justTaken then .closed else done.phase
    leftOver := ts.reverse ++ done.leftOver }

/-- Takes what stands behind two hyphens. -/
def takeBehind (done : Taken σ) (behind? : Option (List Text)) : Except Ending (Taken σ) :=
  match g.operand, done.phase, behind? with
  | .one apply, .pending, none | .one apply, .pending, some [] =>
    .ok { done with state := apply none done.state }
  | .one apply, .pending, some (name :: more) =>
    .ok ({ done with state := apply (some name) done.state }.leave more)
  | .one _, .justTaken, some more => .ok (done.leave more)
  | .rest apply, .pending, some (first :: more) =>
    (apply (doubleHyphen :: first :: more) done.state).map fun state => { done with state }
  | _, _, _ => .ok (done.leave (withHyphens behind?))

/-- Takes arguments from left to right, `behind?` being what stands behind two hyphens. -/
def take (behind? : Option (List Text)) (done : Taken σ) : List (Token σ) → Except Ending (Taken σ)
  | [] => g.takeBehind done behind?
  | .option t none :: rest => take behind? (done.leave [t]) rest
  | .option _ (some found) :: rest =>
    match found.opt.action, found.value? with
    | .value apply, some v =>
      match g.applyValue done.state found.opt apply (.ofText v) with
      | .error e => .error e
      | .ok state => take behind? (done.behindOption state) rest
    | .value apply, none =>
      match rest with
      | .operand t :: later =>
        match g.applyValue done.state found.opt apply (.given t) with
        | .error e => .error e
        | .ok state => take behind? (done.behindOption state) later
      | _ => .error (g.misuseOf found.opt (text "expected one argument"))
    | _, _ =>
      match (g.flags found).bind fun run => run.foldlM g.applyFlag done.state with
      | .error e => .error e
      | .ok state => take behind? (done.behindOption state) rest
  | .operand t :: rest =>
    match g.operand, done.phase with
    | .one apply, .pending =>
      take behind? { done with state := apply (some t) done.state, phase := .justTaken } rest
    | .rest apply, .pending =>
      (apply (t :: (rest.map Token.text ++ withHyphens behind?)) done.state).map fun state =>
        { done with state, phase := .closed }
    | _, _ => take behind? (done.leave [t]) rest

/-- The state that arguments lead to from `start`, and the arguments left over. -/
def parse (start : σ) (args : List Text) : Except Ending (σ × List Text) := do
  let tokens ← g.tokens args
  let taken ← g.take tokens.behind? { state := start } tokens.before
  match g.missing taken.state with
  | [] => return (taken.state, taken.leftOver.reverse)
  | names =>
    throw (g.misuse
      (text "the following arguments are required: " ++ (text ", ").intercalate names))

end Grammar

end Cli

end CompletionWire
