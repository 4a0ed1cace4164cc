import ProfileFilter.Attribute.Type

/-!
# The operator catalog

The operators a condition can use, in their order of presentation, each with a label, a
description and the attribute types it applies to. Codes are written with a marker;
`canonicalOperator` adds a missing marker to the codes of the catalog and leaves every
other spelling alone.
-/

namespace ProfileFilter

/-- The operators of the catalog. -/
inductive OperatorCode where
  /-- equal -/
  | eq
  /-- not equal -/
  | ne
  /-- contains -/
  | contains
  /-- does not contain -/
  | notContain
  /-- starts with -/
  | startsWith
  /-- ends with -/
  | endsWith
  /-- greater -/
  | gt
  /-- greater or equal -/
  | gte
  /-- less -/
  | lt
  /-- less or equal -/
  | lte
  /-- one of several values -/
  | oneOf
  /-- none of several values -/
  | noneOf
  /-- the field is there -/
  | exists
  /-- the field is not there -/
  | notExist
deriving DecidableEq, Repr

namespace OperatorCode

/-- All operators in their order of presentation. -/
def all : List OperatorCode :=
  [.eq, .ne, .contains, .notContain, .startsWith, .endsWith, .gt, .gte, .lt, .lte, .oneOf,
    .noneOf, .exists, .notExist]

/-- The marked code. -/
def code : OperatorCode → String
  | .eq => "#eq"
  | .ne => "#ne"
  | .contains => "#contains"
  | .notContain => "#notContain"
  | .startsWith => "#startsWith"
  | .endsWith => "#endsWith"
  | .gt => "#gt"
  | .gte => "#gte"
  | .lt => "#lt"
  | .lte => "#lte"
  | .oneOf => "#in"
  | .noneOf => "#notIn"
  | .exists => "#exists"
  | .notExist => "#notExist"

/-- A short label. -/
def label : OperatorCode → String
  | .eq => "equals"
  | .ne => "not equals"
  | .contains => "contains"
  | .notContain => "not contain"
  | .startsWith => "starts with"
  | .endsWith => "ends with"
  | .gt => "greater than"
  | .gte => "greater than or equal"
  | .lt => "less than"
  | .lte => "less than or equal"
  | .oneOf => "is one of"
  | .noneOf => "is not one of"
  | .exists => "exists"
  | .notExist => "does not exist"

/-- A one-line description. -/
def description : OperatorCode → String
  | .eq => "Matches values that are equal to a specified value"
  | .ne => "Matches all values that are not equal to a specified value"
  | .contains => "Matches records that contain the specified value"
  | .notContain => "Matches records that do not contain the specified value"
  | .startsWith => "Matches records that start with a specified value"
  | .endsWith => "Matches records that end with a specified value"
  | .gt => "Matches values that are greater than a specified value"
  | .gte => "Matches values that are greater than or equal to a specified value"
  | .lt => "Matches values that are less than a specified value"
  | .lte => "Matches values that are less than or equal to a specified value"
  | .oneOf => "Matches any of the values in a comma-separated list"
  | .noneOf => "Matches none of the values in a comma-separated list"
  | .exists => "Matches records where the field is present"
  | .notExist => "Matches records where the field is absent"

/-- Types that hold one value. -/
def scalarTypes : List AttributeType :=
  [.string, .integer, .decimal, .boolean, .date, .dateTime, .enum]

/-- Types whose values are ordered. -/
def orderedTypes : List AttributeType := [.integer, .decimal, .date, .dateTime]

/-- The types an operator applies to, in their order of presentation. -/
def types : OperatorCode → List AttributeType
  | .eq | .ne => scalarTypes
  | .contains | .notContain => [.string, .array]
  | .startsWith | .endsWith => [.string]
  | .gt | .gte | .lt | .lte => orderedTypes
  | .oneOf | .noneOf => scalarTypes.filter (· != .boolean)
  | .exists | .notExist => AttributeType.all

/-- Does the operator take a list of values? -/
def takesList : OperatorCode → Bool
  | .oneOf | .noneOf => true
  | _ => false

/-- Does the operator ask whether a field is there, whatever the value? -/
def isExistence : OperatorCode → Bool
  | .exists | .notExist => true
  | _ => false

/-- Does the operator match patterns in text? -/
def isTextOnly : OperatorCode → Bool
  | .contains | .notContain | .startsWith | .endsWith => true
  | _ => false

/-- The operator with exactly the given marked code. -/
def ofCode? (code : Text) : Option OperatorCode :=
  all.find? fun op => Text.ofString op.code == code

/-- The operators offered for the fields of list items. -/
def forListItems : List OperatorCode := [.eq, .ne, .contains, .gt, .lt, .oneOf, .noneOf]

end OperatorCode

/-- What marks an operator code. -/
def operatorMarker : CodePoint := '#'

/-- The canonical spelling of an operator: trimmed, and marked if that makes it a code of
the catalog. A blank spelling is no operator. -/
def canonicalOperator (spelling : Text) : Option Text :=
  match spelling.trim with
  | [] => none
  | c :: rest =>
    if c != operatorMarker && (OperatorCode.ofCode? (operatorMarker :: c :: rest)).isSome then
      some (operatorMarker :: c :: rest)
    else some (c :: rest)

/-- The canonical spelling of an operator that may be missing. -/
def canonicalOperator? (spelling : Option Text) : Option Text :=
  spelling.bind canonicalOperator

/-- The operator of the catalog that a spelling denotes. -/
def findOperator? (spelling : Option Text) : Option OperatorCode :=
  (canonicalOperator? spelling).bind OperatorCode.ofCode?

/-- The operators that apply to a type. -/
def operatorsForType (type : AttributeType) : List OperatorCode :=
  OperatorCode.all.filter fun op => op.types.contains type

end ProfileFilter
