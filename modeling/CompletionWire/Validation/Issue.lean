import CompletionWire.Backend
import CompletionWire.Json.Value

/-!
# Issues

An issue says which rule a value breaks and where in the data it stands. The code of a rule is
stable; its message is for people.
-/

namespace CompletionWire

/-- The rules that data may break. -/
inductive Rule
  | missing
  | modelType (model : Text)
  | intType
  | intParsing
  | intParsingSize
  | intFromFloat
  | finiteNumber
  | nonNegative
  | floatType
  | floatParsing
  | boolType
  | boolParsing
  | stringType
  | stringUnicode
  | tupleType
  | listType
  | dictType
  | backendTag
  | frozen
deriving DecidableEq

namespace Rule

def code : Rule → Text
  | missing => text "missing"
  | modelType _ => text "model_type"
  | intType => text "int_type"
  | intParsing => text "int_parsing"
  | intParsingSize => text "int_parsing_size"
  | intFromFloat => text "int_from_float"
  | finiteNumber => text "finite_number"
  | nonNegative => text "greater_than_equal"
  | floatType => text "float_type"
  | floatParsing => text "float_parsing"
  | boolType => text "bool_type"
  | boolParsing => text "bool_parsing"
  | stringType => text "string_type"
  | stringUnicode => text "string_unicode"
  | tupleType => text "tuple_type"
  | listType => text "list_type"
  | dictType => text "dict_type"
  | backendTag => text "enum"
  | frozen => text "frozen_instance"

def message : Rule → Text
  | missing => text "Field required"
  | modelType model => text "Input should be a valid dictionary or instance of " ++ model
  | intType => text "Input should be a valid integer"
  | intParsing => text "Input should be a valid integer, unable to parse string as an integer"
  | intParsingSize => text "Unable to parse input string as an integer, exceeded maximum size"
  | intFromFloat => text "Input should be a valid integer, got a number with a fractional part"
  | finiteNumber => text "Input should be a finite number"
  | nonNegative => text "Input should be greater than or equal to 0"
  | floatType => text "Input should be a valid number"
  | floatParsing => text "Input should be a valid number, unable to parse string as a number"
  | boolType => text "Input should be a valid boolean"
  | boolParsing => text "Input should be a valid boolean, unable to interpret input"
  | stringType => text "Input should be a valid string"
  | stringUnicode =>
    text "Input should be a valid string, unable to parse raw data as a unicode string"
  | tupleType => text "Input should be a valid tuple"
  | listType => text "Input should be a valid list"
  | dictType => text "Input should be a valid dictionary"
  | backendTag => text "Input should be 'huggingface', 'tgi', 'ollama' or 'openai'"
  | frozen => text "Instance is frozen"

end Rule

/-- One step of the way to a value inside data. -/
inductive Step
  | key (k : Text)
  | item (i : Nat)
deriving DecidableEq

/-- A broken rule, the way to the value that breaks it, and that value. -/
structure Issue where
  rule : Rule
  path : List Step
  input : Json

/-- Data that is not a valid instance of a model. -/
structure Invalid where
  model : Text
  issues : List Issue

end CompletionWire
