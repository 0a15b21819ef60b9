import CompletionWire.Decimal.Numeral
import CompletionWire.Text.Lowercase

/-!
# Settings

What the environment of a process says about requests. A variable that is missing, empty or not a
number leaves its setting at the default.
-/

namespace CompletionWire

/-- Environment variables and their values. -/
abbrev Environment := List (Text × Text)

namespace Environment

def find? (name : Text) (env : Environment) : Option Text := (List.find? (·.1 = name) env).map (·.2)

def erase (name : Text) (env : Environment) : Environment := List.filter (·.1 ≠ name) env

def insert (name value : Text) (env : Environment) : Environment :=
  env.erase name ++ [(name, value)]

theorem find?_erase_self (name : Text) (env : Environment) :
    (env.erase name).find? name = none := by
  simp [Environment.find?, Environment.erase, List.find?_filter]

theorem find?_erase_of_ne {name other : Text} (h : other ≠ name) (env : Environment) :
    (env.erase name).find? other = env.find? other := by
  simp only [Environment.find?, Environment.erase, List.find?_filter]
  congr 2
  funext entry
  by_cases hentry : entry.1 = other <;> simp [hentry, h]

theorem find?_insert_self (name value : Text) (env : Environment) :
    (env.insert name value).find? name = some value := by
  have herase := find?_erase_self name env
  rw [find?, Option.map_eq_none_iff] at herase
  simp [find?, insert, List.find?_append, herase]

theorem find?_insert_of_ne {name other : Text} (h : other ≠ name) (value : Text)
    (env : Environment) : (env.insert name value).find? other = env.find? other := by
  rw [← find?_erase_of_ne h env]
  simp [find?, insert, List.find?_append, h.symm]

end Environment

structure Settings where
  adaptorTag? : Option Text
  token? : Option Text
  editorTag : Text
  attempts : Int
  leastWait : Int
  mostWait : Int
  timeout : Binary64

namespace Settings

/-! ### Variables -/

def adaptorVariable : Text := text "LLM_ADAPTOR"

def tokenVariable : Text := text "LLM_API_TOKEN"

/-- Holds the token when the variable before it holds none. -/
def hubTokenVariable : Text := text "HF_TOKEN"

def editorVariable : Text := text "LLM_IDE"

def attemptsVariable : Text := text "LLM_RETRY_ATTEMPTS"

def leastWaitVariable : Text := text "LLM_RETRY_MIN_WAIT"

def mostWaitVariable : Text := text "LLM_RETRY_MAX_WAIT"

def timeoutVariable : Text := text "LLM_REQUEST_TIMEOUT"

/-- The variables that settings are read from. -/
def variableNames : List Text := [
  adaptorVariable, tokenVariable, hubTokenVariable, editorVariable,
  attemptsVariable, leastWaitVariable, mostWaitVariable, timeoutVariable]

/-! ### Reading -/

def nonEmpty? (t : Text) : Option Text := if t.isEmpty then none else some t

theorem nonEmpty?_of_ne {t : Text} (h : t ≠ []) : nonEmpty? t = some t :=
  if_neg (by simpa using h)

/-- The value of a variable that is not empty. -/
def value? (env : Environment) (name : Text) : Option Text := (env.find? name).bind nonEmpty?

/-- The whole number that a variable holds, or the default. -/
def whole (env : Environment) (name : Text) (default : Int) : Int :=
  ((env.find? name).bind Numeral.int?).getD default

/-- The time that a request may take, in seconds, unless a variable says otherwise. -/
def standardTimeout : Binary64 := Binary64.ofInt 60

/-- The tag of an editor that is not known. -/
def unknownEditor : Text := text "unknown"

def ofEnvironment (env : Environment) : Settings where
  adaptorTag? := (env.find? adaptorVariable).bind fun t => nonEmpty? t.trim
  token? := (value? env tokenVariable).or (value? env hubTokenVariable)
  editorTag := ((env.find? editorVariable).bind fun t => nonEmpty? t.trim.lower).getD unknownEditor
  attempts := whole env attemptsVariable 3
  leastWait := whole env leastWaitVariable 1
  mostWait := whole env mostWaitVariable 10
  timeout := ((env.find? timeoutVariable).bind Numeral.binary64?).getD standardTimeout

end Settings

end CompletionWire
