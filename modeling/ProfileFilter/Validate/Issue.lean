import ProfileFilter.Value.Basic

/-!
# Validation issues

Documents from outside are checked field by field, and all problems are reported together,
in the order of the fields. An issue says what is wrong and where: a path of keys and
indices from the root of the document. `Validated` carries a value or a list of issues
and collects the issues of independent checks.
-/

namespace ProfileFilter

/-- One step on the way to a place in a document. -/
inductive Step where
  /-- an entry of a mapping -/
  | key (k : Text)
  /-- an element of a list -/
  | index (n : Int)
deriving DecidableEq, Repr

/-- What is wrong with a value. -/
inductive Problem where
  /-- a required field is not there -/
  | missing
  /-- not a text -/
  | stringType
  /-- not an integer -/
  | intType
  /-- a text that does not spell an integer -/
  | intParsing
  /-- a text that spells an integer with too many digits -/
  | intParsingSize
  /-- a number with a fraction where an integer is due -/
  | intFromFloat
  /-- an infinity or not a number where an integer is due -/
  | finiteNumber
  /-- not a number -/
  | floatType
  /-- a text that does not spell a number -/
  | floatParsing
  /-- not a truth value -/
  | boolType
  /-- a text or a whole number that means no truth value -/
  | boolParsing
  /-- not a list -/
  | listType
  /-- not a mapping -/
  | dictType
  /-- not a document of the named kind -/
  | modelType (kind : String)
  /-- not an object in a request body -/
  | objectType
  /-- not one of the listed words -/
  | enum (words : String)
  /-- an integer in it has too many digits to be read as a text -/
  | tooManyDigits
  /-- a request body that is not JSON -/
  | jsonInvalid
deriving DecidableEq, Repr

namespace Problem

/-- A short code for the problem. -/
def code : Problem → String
  | .missing => "missing"
  | .stringType => "string_type"
  | .intType => "int_type"
  | .intParsing => "int_parsing"
  | .intParsingSize => "int_parsing_size"
  | .intFromFloat => "int_from_float"
  | .finiteNumber => "finite_number"
  | .floatType => "float_type"
  | .floatParsing => "float_parsing"
  | .boolType => "bool_type"
  | .boolParsing => "bool_parsing"
  | .listType => "list_type"
  | .dictType => "dict_type"
  | .modelType _ => "model_type"
  | .objectType => "model_attributes_type"
  | .enum _ => "enum"
  | .tooManyDigits => "value_error"
  | .jsonInvalid => "json_invalid"

/-- The problem in words. -/
def message : Problem → String
  | .missing => "Field required"
  | .stringType => "Input should be a valid string"
  | .intType => "Input should be a valid integer"
  | .intParsing => "Input should be a valid integer, unable to parse string as an integer"
  | .intParsingSize =>
    "Unable to parse input string as an integer, exceeded maximum size"
  | .intFromFloat => "Input should be a valid integer, got a number with a fractional part"
  | .finiteNumber => "Input should be a finite number"
  | .floatType => "Input should be a valid number"
  | .floatParsing => "Input should be a valid number, unable to parse string as a number"
  | .boolType => "Input should be a valid boolean"
  | .boolParsing => "Input should be a valid boolean, unable to interpret input"
  | .listType => "Input should be a valid list"
  | .dictType => "Input should be a valid dictionary"
  | .modelType kind => "Input should be a valid dictionary or instance of " ++ kind
  | .objectType => "Input should be a valid dictionary or object to extract fields from"
  | .enum words => "Input should be " ++ words
  | .tooManyDigits =>
    "Value error, Exceeds the limit (4300 digits) for integer string conversion; " ++
      "use sys.set_int_max_str_digits() to increase the limit"
  | .jsonInvalid => "JSON decode error"

end Problem

/-- A problem and its place. -/
structure Issue where
  /-- what is wrong -/
  problem : Problem
  /-- the value that was refused; for a missing field, the mapping that lacks it -/
  input : Value
  /-- where, from the root of the document -/
  path : List Step := []
deriving BEq, Repr

/-- A value that passed its checks, or everything that is wrong with it. -/
inductive Validated (α : Type) where
  /-- the value -/
  | valid (a : α)
  /-- the issues, at least one -/
  | invalid (issues : List Issue)
deriving Repr

namespace Validated

variable {α β : Type}

/-- Applies a function to a valid value. -/
protected def map (f : α → β) : Validated α → Validated β
  | .valid a => .valid (f a)
  | .invalid issues => .invalid issues

/-- Applies a checked function to a checked value; the issues of both are collected. -/
protected def seq (f : Validated (α → β)) (a : Unit → Validated α) : Validated β :=
  match f, a () with
  | .valid f, .valid a => .valid (f a)
  | .valid _, .invalid issues => .invalid issues
  | .invalid issues, .valid _ => .invalid issues
  | .invalid issues, .invalid more => .invalid (issues ++ more)

instance : Applicative Validated where
  pure := .valid
  map := Validated.map
  seq := Validated.seq

/-- Refuses a value. -/
def refuse (problem : Problem) (input : Value) : Validated α := .invalid [⟨problem, input, []⟩]

/-- Places a check inside a document: its issues lie one step further down. -/
def within (step : Step) : Validated α → Validated α
  | .valid a => .valid a
  | .invalid issues => .invalid (issues.map fun issue => { issue with path := step :: issue.path })

/-- Places a check under a key. -/
def under (key : Text) (v : Validated α) : Validated α := v.within (.key key)

/-- Collects checked values in order. -/
def collect : List (Validated α) → Validated (List α)
  | [] => .valid []
  | v :: rest => List.cons <$> v <*> collect rest

end Validated

end ProfileFilter
