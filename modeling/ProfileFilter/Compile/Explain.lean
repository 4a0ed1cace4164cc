import ProfileFilter.Compile.Node

/-!
# Explaining conditions

A sentence for each condition that is sent: field, operator label and value. The fields
of list items are explained as they were written.
-/

namespace ProfileFilter

mutual

/-- A value in an explanation: lists between brackets, truth values in small letters. -/
def describeValue : Value → Text
  | .list items | .tuple items => "[" ++ Text.join ", " (describeValues items) ++ "]"
  | .bool b => if b then "true" else "false"
  | v => v.shown

/-- Several values in an explanation. -/
def describeValues : List Value → List Text
  | [] => []
  | v :: rest => describeValue v :: describeValues rest

end

/-- The label of an operator; one that is not in the catalog is shown as it is. -/
def operatorLabel (operator : Option Text) : Text :=
  match findOperator? operator with
  | some op => Text.ofString op.label
  | none => operator.getD "None"

namespace ItemCondition

/-- The explanation of an item. -/
def explanation (item : ItemCondition) : Text :=
  item.field ++ " " ++ operatorLabel item.operator ++ " " ++ describeValue item.value

end ItemCondition

namespace Condition

/-- The explanation of a flat condition. -/
def flatExplanation (attributes : List Attribute) (c : Condition) : Text :=
  let operator := c.canonical
  let subject := c.field ++ " " ++ operatorLabel operator
  if (operator.bind OperatorCode.ofCode?).any OperatorCode.isExistence then subject
  else subject ++ " " ++ describeValue (c.leaf attributes)

/-- The explanation of a list condition. -/
def listExplanation (c : Condition) : Text :=
  let quantifier : Text := match c.listMode with
    | .all => "all items"
    | .any => "any item"
  c.field ++ " has " ++ quantifier ++ " where " ++
    Text.join c.listLogic.separator (c.completeItems.map ItemCondition.explanation)

/-- The explanation of a condition. -/
def explanation (attributes : List Attribute) (c : Condition) : Text :=
  if c.resolvedType attributes = some .list then c.listExplanation
  else c.flatExplanation attributes

end Condition

end ProfileFilter
