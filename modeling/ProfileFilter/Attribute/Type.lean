import ProfileFilter.Value.Shown

/-!
# Attribute types

The nine types a profile attribute can have, their names, and the forgiving reading of
type labels: case and surrounding blanks do not matter, common synonyms are understood,
and a label nobody knows means text, which is how untyped attributes behave.
-/

namespace ProfileFilter

/-- The type of a profile attribute. -/
inductive AttributeType where
  /-- plain text -/
  | string
  /-- whole numbers -/
  | integer
  /-- numbers with a fraction -/
  | decimal
  /-- truth values -/
  | boolean
  /-- days -/
  | date
  /-- days with a time -/
  | dateTime
  /-- one of a fixed set of texts -/
  | enum
  /-- several values under one name -/
  | array
  /-- a list of records with a schema of their own -/
  | list
deriving DecidableEq, Repr, Inhabited

namespace AttributeType

/-- All types in their order of presentation. -/
def all : List AttributeType :=
  [.string, .integer, .decimal, .boolean, .date, .dateTime, .enum, .array, .list]

/-- The name of a type. -/
def name : AttributeType → String
  | .string => "string"
  | .integer => "integer"
  | .decimal => "decimal"
  | .boolean => "boolean"
  | .date => "date"
  | .dateTime => "date_time"
  | .enum => "enum"
  | .array => "array"
  | .list => "list"

/-- The type with exactly the given name. -/
def ofName? (name : Text) : Option AttributeType :=
  all.find? fun type => Text.ofString type.name == name

/-- Other words for types. -/
def synonyms : List (Text × AttributeType) :=
  [("number", .decimal), ("float", .decimal), ("double", .decimal), ("int", .integer),
    ("long", .integer), ("datetime", .dateTime), ("bool", .boolean), ("text", .string)]

/-- The type a label means; a label nobody knows means text. -/
def ofLabel (label : Text) : AttributeType :=
  let word := label.trim.lower
  match synonyms.lookup word with
  | some type => type
  | none => (ofName? word).getD .string

/-- The type any value means that can be shown, read by the way it is; everything empty is
text. -/
def ofValue (v : Value) : AttributeType := ofLabel (if v.isTruthy then v.shown else [])

/-- Is this one of the two number types? -/
def isNumeric : AttributeType → Bool
  | .integer | .decimal => true
  | _ => false

/-- The name of a type as a document value. -/
def toValue (type : AttributeType) : Value := .text (Text.ofString type.name)

end AttributeType

end ProfileFilter
