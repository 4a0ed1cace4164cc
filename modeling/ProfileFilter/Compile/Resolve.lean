import ProfileFilter.Condition.Basic
import ProfileFilter.Operator.Catalog

/-!
# Resolving what a condition is about

A condition may leave its type and schema to the known attributes. This module looks the
attribute up, decides the type and the schema that count, and says when a condition is
complete enough to be sent.
-/

namespace ProfileFilter

/-- Is a value filled in? Only null and the empty text are not. -/
def hasValue : Value → Bool
  | .null => false
  | .text t => !t.isEmpty
  | _ => true

namespace ItemCondition

/-- The operator in its canonical spelling. -/
def canonical (item : ItemCondition) : Option Text := canonicalOperator? item.operator

/-- An item condition needs a field, an operator and a value. -/
def isComplete (item : ItemCondition) : Bool :=
  !item.field.isEmpty && item.canonical.isSome && hasValue item.value

end ItemCondition

/-- The attribute a field means: the one of that name, or else, for a dotted field, the list
attribute it addresses. -/
def resolveAttribute? (attributes : List Attribute) (field : Text) : Option Attribute :=
  match Attribute.named? field attributes with
  | some a => some a
  | none => if field.contains '.' then Attribute.named? (listFieldName field) attributes else none

namespace Condition

/-- The operator in its canonical spelling. -/
def canonical (c : Condition) : Option Text := canonicalOperator? c.operator

/-- The type that counts: the condition's own, else the attribute's. A condition that is
about no known attribute, has no operator, and comes with item conditions is about a list. -/
def resolvedType (attributes : List Attribute) (c : Condition) : Option AttributeType :=
  match c.fieldType with
  | some type => some type
  | none =>
    match resolveAttribute? attributes c.field with
    | some a => some a.type
    | none => if c.listConditions.isSome && c.canonical.isNone then some .list else none

/-- The schema that counts: the condition's own unless it is empty, else the attribute's. -/
def resolvedSchema (attributes : List Attribute) (c : Condition) : Schema :=
  match c.schema with
  | some (field :: fields) => field :: fields
  | _ => ((resolveAttribute? attributes c.field).bind Attribute.schema).getD []

/-- The item conditions; none when the list is missing. -/
def items (c : Condition) : List ItemCondition := c.listConditions.getD []

/-- The item conditions that are complete. -/
def completeItems (c : Condition) : List ItemCondition := c.items.filter ItemCondition.isComplete

/-- Is this one of the operators that ask whether a field is there? -/
def asksExistence (operator : Text) : Bool :=
  match OperatorCode.ofCode? operator with
  | some op => op.isExistence
  | none => false

/-- Does a condition have everything it needs? A list condition needs a field and a complete
item; a flat one a field, an operator and, unless it asks for existence, a value. -/
def isComplete (attributes : List Attribute) (c : Condition) : Bool :=
  !c.field.isEmpty &&
    (if c.resolvedType attributes = some .list then c.items.any ItemCondition.isComplete
     else
       match c.canonical with
       | none => false
       | some operator => asksExistence operator || hasValue c.value)

end Condition

end ProfileFilter
