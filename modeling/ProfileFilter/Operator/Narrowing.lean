import ProfileFilter.Attribute.Basic
import ProfileFilter.Operator.Catalog

/-!
# Narrowing the operators of an attribute

Which operators suit an attribute starts from its type and is then narrowed by rules
about particular attributes. The rules are tried in order and later ones act on what the
earlier ones left.
-/

namespace ProfileFilter

/-- A rule that changes the operators offered for the attributes it is about. -/
inductive NarrowingRule where
  /-- enumerations can only be compared -/
  | enumEqualityOnly
  /-- tags are only searched -/
  | tagsMembershipOnly
  /-- lists take no operator of their own -/
  | listNoTopLevelOperator
  /-- numbers are not searched as text -/
  | numericNoTextMatching
deriving DecidableEq, Repr

namespace NarrowingRule

/-- The rules in the order they apply. -/
def all : List NarrowingRule :=
  [.enumEqualityOnly, .tagsMembershipOnly, .listNoTopLevelOperator, .numericNoTextMatching]

/-- The name of a rule. -/
def name : NarrowingRule → String
  | .enumEqualityOnly => "enum-equality-only"
  | .tagsMembershipOnly => "tags-membership-only"
  | .listNoTopLevelOperator => "list-no-top-level-operator"
  | .numericNoTextMatching => "numeric-no-text-matching"

/-- Is the rule about this attribute? -/
def isAbout (rule : NarrowingRule) (a : Attribute) : Bool :=
  match rule with
  | .enumEqualityOnly => a.type = .enum
  | .tagsMembershipOnly => a.name == "tags"
  | .listNoTopLevelOperator => a.isList
  | .numericNoTextMatching => a.type.isNumeric

/-- The operators that remain. The first three rules put a fixed selection in place of
whatever was there; the last one removes. -/
def apply (rule : NarrowingRule) (operators : List OperatorCode) : List OperatorCode :=
  match rule with
  | .enumEqualityOnly => [.eq, .ne]
  | .tagsMembershipOnly => [.contains, .notContain]
  | .listNoTopLevelOperator => []
  | .numericNoTextMatching => operators.filter fun op => !op.isTextOnly

/-- The rule with the given name. -/
def ofName? (name : Text) : Option NarrowingRule :=
  all.find? fun rule => Text.ofString rule.name == name

end NarrowingRule

/-- The operators to offer for an attribute. -/
def operatorsFor (a : Attribute) : List OperatorCode :=
  NarrowingRule.all.foldl
    (fun operators rule => if rule.isAbout a then rule.apply operators else operators)
    (operatorsForType a.type)

/-- The operators to offer for an attribute that may not be known: all of them if not. -/
def operatorsFor? : Option Attribute → List OperatorCode
  | some a => operatorsFor a
  | none => OperatorCode.all

end ProfileFilter
