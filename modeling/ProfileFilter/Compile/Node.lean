import ProfileFilter.Compile.Resolve
import ProfileFilter.Condition.Coercion

/-!
# Filter nodes

A complete condition becomes one node of the filter document: nested mappings for the
field path, with the operator around the path, at its end, or left out for equality; list
conditions become a mode around the joined nodes of their items.
-/

namespace ProfileFilter

/-- A mapping with a single entry. -/
def single (key : Text) (v : Value) : Value := .mapping [(.text key, v)]

/-- Puts a value under an operator, if there is one. -/
def underOperator (operator : Option Text) (v : Value) : Value :=
  match operator with
  | some op => single op v
  | none => v

/-- The nested mapping for the segments of a path. -/
def nestSegments (segments : List Text) (leaf : Value) : Value :=
  segments.foldr single leaf

/-- The nested mapping for a dotted path. -/
def nestPath (path : Text) (leaf : Value) : Value := nestSegments (path.splitOn '.') leaf

/-- The nested mapping for a dotted path with an operator: around the whole path, or
inverted, at its end. -/
def nestFieldPath (path : Text) (leaf : Value) (operator : Option Text) (invert : Bool) : Value :=
  if invert then nestPath path (underOperator operator leaf)
  else underOperator operator (nestPath path leaf)

namespace ItemCondition

/-- The value of an item made to fit the schema. -/
def leaf (schema : Schema) (item : ItemCondition) : Value :=
  coerceValue (schema.lookup item.field) item.operator item.value

/-- The node of an item: its field and value, under the operator unless that is equality. -/
def node (schema : Schema) (item : ItemCondition) : Value :=
  let field := single item.field (item.leaf schema)
  match item.canonical with
  | some op => if op == "#eq" then field else single op field
  | none => .mapping [(.null, field)]

end ItemCondition

namespace Condition

/-- The value of a flat condition made to fit its type. -/
def leaf (attributes : List Attribute) (c : Condition) : Value :=
  coerceValue (c.resolvedType attributes) c.operator c.value

/-- The node of a flat condition. -/
def flatNode (attributes : List Attribute) (c : Condition) : Value :=
  let operator := c.canonical
  let kind := operator.bind OperatorCode.ofCode?
  if kind.any OperatorCode.isExistence then nestFieldPath c.field (.bool true) operator false
  else if kind.any OperatorCode.takesList then
    nestFieldPath c.field (c.leaf attributes) operator false
  else if c.resolvedType attributes = some .array then
    nestFieldPath c.field (c.leaf attributes) operator true
  else if kind = some .eq then nestPath c.field (c.leaf attributes)
  else nestFieldPath c.field (c.leaf attributes) operator false

/-- The node of a list condition; nothing when no item is complete. -/
def listNode? (attributes : List Attribute) (c : Condition) : Option Value :=
  match c.completeItems with
  | [] => none
  | item :: items =>
    let schema := c.resolvedSchema attributes
    let nodes := (item :: items).map (ItemCondition.node schema)
    some (single c.listMode.key
      (single (listFieldName c.field) (single c.listLogic.key (.list nodes))))

/-- The node of a condition. -/
def node? (attributes : List Attribute) (c : Condition) : Option Value :=
  if c.resolvedType attributes = some .list then c.listNode? attributes
  else some (c.flatNode attributes)

end Condition

end ProfileFilter
