import ProfileFilter.Compile.Explain
import ProfileFilter.Json.Print
import ProfileFilter.Text.Percent

/-!
# Compiling filter sets

A filter set becomes one filter document: the node of its only surviving condition, or
all nodes under the key of the logic. The document is printed as compact JSON and
percent-encoded. Conditions that are incomplete, or whose node cannot be printed or
encoded, are dropped; the one thing that stops a compilation is a mapping key that JSON
has no form for.
-/

namespace ProfileFilter

/-- A compiled filter set. Everything is empty when no condition survived. -/
structure CompiledFilter where
  /-- the filter as compact JSON -/
  raw : Text := []
  /-- the filter as it goes into a query -/
  encoded : Text := []
  /-- the filter document -/
  node : Option Value := none
  /-- how many conditions are in it -/
  conditionCount : Nat := 0
  /-- the filter in words -/
  explanation : Text := []
deriving BEq, Repr

namespace CompiledFilter

/-- Did no condition survive? -/
def isEmpty (compiled : CompiledFilter) : Bool := compiled.raw.isEmpty

end CompiledFilter

/-- A filter document as text; everything empty prints as nothing. -/
def serializeFilter (node : Value) : Except Json.Unprintable Text :=
  if node.isTruthy then Json.compact node else .ok []

/-- Can a node be sent? A number JSON cannot write or a lone surrogate rules it out; a key
JSON has no form for is an error. -/
def isSendable (node : Value) : Except Json.Unprintable Bool :=
  match serializeFilter node with
  | .ok raw => .ok raw.isEncodable
  | .error .number => .ok false
  | .error .key => .error .key

/-- A condition that reached the output. -/
structure Clause where
  /-- its node -/
  node : Value
  /-- its explanation -/
  explanation : Text
deriving BEq, Repr

/-- The clause of a condition, if it reaches the output. -/
def Condition.clause? (attributes : List Attribute) (c : Condition) :
    Except Json.Unprintable (Option Clause) :=
  if c.isComplete attributes then
    match c.node? attributes with
    | none => .ok none
    | some node => do
      if ← isSendable node then return some ⟨node, c.explanation attributes⟩ else return none
  else .ok none

/-- The clauses of the conditions that reach the output, in order. -/
def clauses (attributes : List Attribute) :
    List Condition → Except Json.Unprintable (List Clause)
  | [] => .ok []
  | c :: rest => do
    let first ← c.clause? attributes
    return first.toList ++ (← clauses attributes rest)

/-- The filter document of several nodes: a single node stands for itself. -/
def rootNode (logic : Logic) : List Value → Value
  | [node] => node
  | nodes => single logic.key (.list nodes)

/-- The filter of some clauses. -/
def assemble (logic : Logic) (found : List Clause) : Except Json.Unprintable CompiledFilter :=
  if found.isEmpty then .ok {}
  else do
    let root := rootNode logic (found.map Clause.node)
    let raw ← serializeFilter root
    return {
      raw
      encoded := Percent.encode raw
      node := some root
      conditionCount := found.length
      explanation := Text.join logic.separator (found.map Clause.explanation) }

/-- Compiles a filter set with the help of the known attributes. -/
def compileFilter (attributes : List Attribute) (filter : FilterSet) :
    Except Json.Unprintable CompiledFilter := do
  assemble filter.logic (← clauses attributes filter.conditions)

end ProfileFilter
