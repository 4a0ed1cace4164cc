import ProfileFilter.Validate.Field
import ProfileFilter.Condition.Basic

/-!
# Checking attributes and filter sets

The checks for the documents of the domain. Fields are known under the name they have in
documents and, for some, under a second spelling; the first counts when both are there.
Unknown fields are ignored.

In a request body, records nested in it are refused with another problem than in a
document; `Source` says which is meant.
-/

namespace ProfileFilter

namespace Check

/-- Where a document comes from. -/
inductive Source where
  /-- a file or a program -/
  | document
  /-- the body of a request -/
  | body
deriving DecidableEq, Repr

/-- The problem of something that is not a record of the named kind. -/
def Source.notRecord (source : Source) (kind : String) : Problem :=
  match source with
  | .document => .modelType kind
  | .body => .objectType

/-- An attribute type, by any label that can be shown. -/
def attributeType (v : Value) : Validated AttributeType :=
  if v.isShowable then .valid (AttributeType.ofValue v) else .refuse .tooManyDigits v

/-- An attribute type that may be left open. -/
def openType : Value → Validated (Option AttributeType)
  | .null => .valid none
  | .text [] => .valid none
  | v => some <$> attributeType v

/-- The description of one field of a list item. -/
def schemaField (source : Source) : Value → Validated AttributeType :=
  record (source.notRecord "SchemaField") fun entries =>
    optional ["type"] .string attributeType entries

/-- The schema of a list. -/
def schema (source : Source) : Value → Validated (Option Schema) :=
  nullable (mapping (schemaField source))

/-- An attribute. -/
def profileAttribute (source : Source) : Value → Validated Attribute :=
  record (source.notRecord "Attribute") fun entries =>
    Attribute.mk
      <$> required "name" text entries
      <*> optional ["type"] .string attributeType entries
      <*> optional ["isCustom", "is_custom"] false boolean entries
      <*> optional ["displayName", "display_name"] none (nullable text) entries
      <*> optional ["enumValues", "enum_values"] none (nullable (list text)) entries
      <*> optional ["schema", "list_schema"] none (schema source) entries

/-- An identifier: a text or an integer. Anything that is neither is refused twice. -/
def conditionId : Value → Validated ConditionId
  | .text t => .valid (.text t)
  | v =>
    match integer v with
    | .valid n => .valid (.int n)
    | .invalid issues =>
      (Validated.refuse .stringType v).under "str"
        <* (Validated.invalid issues : Validated Int).under "int"

/-- An item condition. -/
def itemCondition (source : Source) : Value → Validated ItemCondition :=
  record (source.notRecord "ItemCondition") fun entries =>
    ItemCondition.mk
      <$> optional ["id"] none (nullable conditionId) entries
      <*> optional ["field"] [] text entries
      <*> optional ["operator"] (some "#eq") (nullable text) entries
      <*> optional ["value"] .null anything entries

/-- The words for list modes. -/
def listModeWords : String := "'match-any' or 'match-all'"

/-- A list mode: any word, or nothing for the default. -/
def listMode : Value → Validated ListMode
  | .null => .valid .any
  | .text t => .valid (ListMode.ofWord t)
  | v => .refuse (.enum listModeWords) v

/-- A logic, by any value. -/
def logic (v : Value) : Validated Logic := .valid (Logic.ofValue v)

/-- A condition. -/
def condition (source : Source) : Value → Validated Condition :=
  record (source.notRecord "Condition") fun entries =>
    Condition.mk
      <$> optional ["id"] none (nullable conditionId) entries
      <*> optional ["field"] [] text entries
      <*> optional ["operator"] none (nullable text) entries
      <*> optional ["value"] .null anything entries
      <*> optional ["fieldType", "field_type"] none openType entries
      <*> optional ["listMode", "list_mode"] .any listMode entries
      <*> optional ["listLogic", "list_logic"] .and logic entries
      <*> optional ["listConditions", "list_conditions"] none
        (nullable (list (itemCondition source))) entries
      <*> optional ["schema", "list_schema"] none (schema source) entries

/-- A filter set. -/
def filterSet (source : Source) : Value → Validated FilterSet :=
  record (source.notRecord "FilterSet") fun entries =>
    FilterSet.mk
      <$> optional ["conditions"] [] (list (condition source)) entries
      <*> optional ["logic"] .and logic entries

end Check

end ProfileFilter
