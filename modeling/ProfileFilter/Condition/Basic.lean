import ProfileFilter.Attribute.Basic

/-!
# Conditions and filter sets

What a person authors: conditions on attributes, and the logic that joins them. A flat
condition compares one field with a value; a list condition puts conditions on the
fields of the items of a list attribute.
-/

namespace ProfileFilter

/-- Which items of a list must meet the conditions. -/
inductive ListMode where
  /-- at least one -/
  | any
  /-- every one -/
  | all
deriving DecidableEq, Repr, Inhabited

namespace ListMode

/-- The name of a mode. -/
def name : ListMode → String
  | .any => "match-any"
  | .all => "match-all"

/-- The key of a mode in filter text. -/
def key : ListMode → String
  | .any => "#any"
  | .all => "#all"

/-- The mode a word means; any word that does not mean all items means any item. -/
def ofWord (word : Text) : ListMode :=
  let word := word.trim.lower
  if word == "#all" || word == "all" || word == "match-all" then .all else .any

end ListMode

/-- How neighbouring conditions are joined. -/
inductive Logic where
  /-- all must hold -/
  | and
  /-- one must hold -/
  | or
deriving DecidableEq, Repr, Inhabited

namespace Logic

/-- The name of a logic. -/
def name : Logic → String
  | .and => "and"
  | .or => "or"

/-- The key of a logic in filter text. -/
def key : Logic → String
  | .and => "#and"
  | .or => "#or"

/-- What stands between two joined descriptions. -/
def separator : Logic → String
  | .and => " AND "
  | .or => " OR "

/-- The logic any value means: the word "or" means or, everything else means and. -/
def ofValue : Value → Logic
  | .text t => if t.trim.lower == "or" then .or else .and
  | _ => .and

end Logic

/-- An identifier the authoring tool gave to a condition. -/
inductive ConditionId where
  /-- a text -/
  | text (t : Text)
  /-- a number -/
  | int (n : Int)
deriving DecidableEq, Repr

/-- A condition on one field of the items of a list. -/
structure ItemCondition where
  /-- an identifier, which means nothing here -/
  id : Option ConditionId := none
  /-- the field of the item -/
  field : Text := []
  /-- the operator as written -/
  operator : Option Text := some "#eq"
  /-- the value as entered -/
  value : Value := .null
deriving BEq, Repr

/-- A condition on an attribute. -/
structure Condition where
  /-- an identifier, which means nothing here -/
  id : Option ConditionId := none
  /-- the attribute's name -/
  field : Text := []
  /-- the operator as written -/
  operator : Option Text := none
  /-- the value as entered -/
  value : Value := .null
  /-- the attribute's type, if the condition carries it -/
  fieldType : Option AttributeType := none
  /-- which items must meet the item conditions -/
  listMode : ListMode := .any
  /-- how the item conditions are joined -/
  listLogic : Logic := .and
  /-- the item conditions -/
  listConditions : Option (List ItemCondition) := none
  /-- the types of the item fields, if the condition carries them -/
  schema : Option Schema := none
deriving BEq, Repr

/-- Conditions and the logic that joins them. -/
structure FilterSet where
  /-- the conditions in order -/
  conditions : List Condition := []
  /-- how they are joined -/
  logic : Logic := .and
deriving BEq, Repr

end ProfileFilter
