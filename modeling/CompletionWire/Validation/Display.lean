import CompletionWire.Decimal.Layout
import CompletionWire.Text.Quoted
import CompletionWire.Validation.Issue

/-!
# Validation reports

The long report of invalid data: a head line with the number of issues, and for each issue the way
to the value, the broken rule, and the value itself, cut in the middle if it is long.
-/

namespace CompletionWire

namespace Json

def typeName : Json → Text
  | .null => text "NoneType"
  | .bool _ => text "bool"
  | .int _ => text "int"
  | .float _ => text "float"
  | .string _ => text "str"
  | .array _ => text "list"
  | .object _ => text "dict"

mutual

/-- A value as a report shows it. -/
def display : Json → Text
  | .null => text "None"
  | .bool b => if b then text "True" else text "False"
  | .int n => Text.ofInt n
  | .float x => x.write .short
  | .string s => s.quoted
  | .array items => text "[" ++ (text ", ").intercalate (displayItems items) ++ text "]"
  | .object members =>
    text "\x7b" ++ (text ", ").intercalate (displayMembers members) ++ text "\x7d"

def displayItems : List Json → List Text
  | [] => []
  | v :: rest => v.display :: displayItems rest

def displayMembers : List (Text × Json) → List Text
  | [] => []
  | (k, v) :: rest => (k.quoted ++ text ": " ++ v.display) :: displayMembers rest

end

end Json

/-- A text of at most fifty code points, or its two ends. -/
def Text.shortened (t : Text) : Text :=
  if t.length ≤ 50 then t else t.take 25 ++ text "..." ++ t.drop (t.length - 24)

def Step.display : Step → Text
  | key k => k
  | item i => Text.ofNat i

def Issue.display (i : Issue) : Text :=
  (if i.path.isEmpty then []
    else (text ".").intercalate (i.path.map Step.display) ++ text "\n") ++
  text "  " ++ i.rule.message ++ text " [type=" ++ i.rule.code ++ text ", input_value=" ++
    i.input.display.shortened ++ text ", input_type=" ++ i.input.typeName ++
    text "]\n    For further information visit https://errors.pydantic.dev/2.14/v/" ++ i.rule.code

def Invalid.display (data : Invalid) : Text :=
  Text.ofNat data.issues.length ++
    (if data.issues.length = 1 then text " validation error for "
      else text " validation errors for ") ++
    data.model ++ data.issues.flatMap fun i => text "\n" ++ i.display

end CompletionWire
