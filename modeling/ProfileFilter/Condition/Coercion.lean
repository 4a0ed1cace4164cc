import ProfileFilter.Number.Read
import ProfileFilter.Operator.Catalog

/-!
# Coercion of entered values

People enter values as text; the service expects numbers and truth values where the
attribute's type asks for them. Coercion never fails: a text that does not spell a value
of the type is passed on as it is, and values that are not texts are left alone.
-/

namespace ProfileFilter

/-- Trims a piece of a list; a text that is blank is no piece. -/
def trimPiece? : Value → Option Value
  | .text t => if t.trim.isEmpty then none else some (.text t.trim)
  | v => some v

/-- The pieces of a list value: the parts of a text between commas, the elements of a list,
or the value itself. Texts are trimmed and blank ones dropped, except that a value alone
is kept as it is. -/
def splitListValue : Value → List Value
  | .null => []
  | .text t => ((t.splitOn ',').map Value.text).filterMap trimPiece?
  | .list items | .tuple items => items.filterMap trimPiece?
  | v => [v]

/-- The truth value a word means. -/
def readBool? (t : Text) : Option Bool :=
  let word := t.trim.lower
  if word == "true" || word == "1" || word == "yes" then some true
  else if word == "false" || word == "0" || word == "no" then some false
  else none

/-- The value of the given type that a text spells. -/
def readAs? (type : AttributeType) (t : Text) : Option Value :=
  match type with
  | .integer => (readInteger? t).map Value.int
  | .decimal => ((readDecimal? t).filter Binary64.isFinite).map Value.float
  | .boolean => (readBool? t).map Value.bool
  | _ => none

/-- One value made to fit a type. -/
def coerceScalar (type : Option AttributeType) (v : Value) : Value :=
  match type, v with
  | some type, .text t => (readAs? type t).getD v
  | _, _ => v

/-- Does a spelling denote an operator that takes a list of values? -/
def takesList (operator : Option Text) : Bool :=
  match findOperator? operator with
  | some op => op.takesList
  | none => false

/-- The value of a condition made to fit its type: piece by piece for the operators that
take a list, as a whole for all others. -/
def coerceValue (type : Option AttributeType) (operator : Option Text) (v : Value) : Value :=
  if takesList operator then .list ((splitListValue v).map (coerceScalar type))
  else coerceScalar type v

end ProfileFilter
