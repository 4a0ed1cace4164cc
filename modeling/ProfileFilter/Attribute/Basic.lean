import ProfileFilter.Attribute.Type

/-!
# Attributes

An attribute is a named, typed field of a profile. The attributes of list type carry a
schema: the types of the fields of each list item.

List attributes are addressed in filters with a separator of their own, U+0001, in
place of the dots of their name.
-/

namespace ProfileFilter

/-- The separator that stands between the parts of a list attribute's name. -/
def listSeparator : CodePoint := 0x01

/-- The types of the fields of a list item, in order. -/
abbrev Schema := List (Text × AttributeType)

/-- A profile attribute. -/
structure Attribute where
  /-- the field path -/
  name : Text
  /-- the type of its values -/
  type : AttributeType := .string
  /-- was it defined by the account? -/
  isCustom : Bool := false
  /-- the name to show, if it differs -/
  displayName : Option Text := none
  /-- the admissible values -/
  enumValues : Option (List Text) := none
  /-- the fields of its items, for a list -/
  schema : Option Schema := none
deriving DecidableEq, Repr

namespace Attribute

/-- Is this a list attribute? -/
def isList (a : Attribute) : Bool := a.type = .list

/-- The field that identifies an item, which no condition is about. -/
def itemIdentifier : Text := "__id"

/-- The fields of a list attribute's items without the identifier. -/
def schemaFields (a : Attribute) : Schema :=
  if a.isList then (a.schema.getD []).filter fun field => field.1 != itemIdentifier else []

/-- The last attribute with a given name. -/
def named? (name : Text) (attributes : List Attribute) : Option Attribute :=
  attributes.reverse.find? fun a => a.name == name

end Attribute

/-- Addresses a list attribute: every dot becomes the list separator. -/
def listFieldName (path : Text) : Text := path.replace '.' [listSeparator]

/-- A name as it is shown, the list separator as a dot. -/
def displayFieldName (name : Text) : Text := name.replace listSeparator "."

end ProfileFilter
