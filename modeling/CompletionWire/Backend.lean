import CompletionWire.Text.Blank
import CompletionWire.Text.Lowercase

/-!
# Backends

The four kinds of inference servers, each with its tag. A tag in data is matched exactly; a tag in
settings may have blanks around it and capitals in it.
-/

namespace CompletionWire

inductive Backend
  | huggingFace
  | tgi
  | ollama
  | openAi
deriving DecidableEq

namespace Backend

def all : List Backend := [huggingFace, tgi, ollama, openAi]

def tag : Backend → Text
  | huggingFace => text "huggingface"
  | tgi => text "tgi"
  | ollama => text "ollama"
  | openAi => text "openai"

/-- The backend that a call without a selection goes to. -/
def standard : Backend := huggingFace

/-- The selected backend, or the standard one. -/
def resolve (selected? : Option Backend) : Backend := selected?.getD standard

/-- The backend of an exact tag. -/
def ofTag? (t : Text) : Option Backend := all.find? (·.tag = t)

def ofSetting? (t : Text) : Option Backend := ofTag? t.trim.lower

theorem ofTag?_tag (b : Backend) : ofTag? b.tag = some b := by
  cases b <;> decide

theorem ofTag?_eq_some_iff {t : Text} {b : Backend} : ofTag? t = some b ↔ b.tag = t := by
  constructor
  · intro h
    simpa [ofTag?] using List.find?_some h
  · rintro rfl
    exact ofTag?_tag b

end Backend

end CompletionWire
