import ProfileFilter.Proofs.Compile.Alike
import ProfileFilter.Proofs.Compile.Independence
import ProfileFilter.Proofs.Compile.Unambiguous
import ProfileFilter.Proofs.Operator.Spelling

/-!
# The completeness gate

Whether a condition is complete is decided before its node is built, and apart from it. The two
agree: a complete condition always has a node, and the node is what it should be, the leaf under
the path and the operator, or the nodes of the complete items under logic, field and mode
(`Condition.IsNode`). All keys around the leaves are texts, and those of operators are canonical.
On the way to the output only the text of the node can still get lost.

Main statement: `Condition.isComplete_decides`.
-/

namespace ProfileFilter

open Json

/-! ## What is filled in -/

/-- Is a value given: neither null nor the empty text? -/
def IsGiven (v : Value) : Prop := v ≠ .null ∧ v ≠ .text []

theorem hasValue_iff {v : Value} : hasValue v = true ↔ IsGiven v := by
  unfold IsGiven
  cases v <;> simp [hasValue]

/-- False, zero and an empty list are values. -/
example : [Value.bool false, .int 0, .list []].all hasValue = true := by decide

theorem asksExistence_iff {spelling : Option Text} {op : Text}
    (h : canonicalOperator? spelling = some op) : Condition.asksExistence op = true ↔
      findOperator? spelling = some .exists ∨ findOperator? spelling = some .notExist := by
  rw [findOperator?, h, Option.bind_some, Condition.asksExistence]
  cases OperatorCode.ofCode? op with
  | none => simp
  | some code => cases code <;> simp [OperatorCode.isExistence]

namespace ItemCondition

/-- An item is complete if its field, its operator and its value are filled in. -/
theorem isComplete_iff {item : ItemCondition} : item.isComplete = true ↔
    item.field ≠ [] ∧ IsWritten item.operator ∧ IsGiven item.value := by
  rw [isComplete, Bool.and_eq_true, Bool.and_eq_true, canonical, isSome_canonicalOperator?_iff,
    hasValue_iff, Bool.not_eq_true', List.isEmpty_eq_false_iff, and_assoc]

/-! ## Nodes of items -/

/-- The node puts the item's value, made to fit the type, under the field, and that under the
operator unless it is equality. -/
inductive IsNode (type : Option AttributeType) (item : ItemCondition) :
    Value → Prop where
  /-- equality is not shown -/
  | equality : item.canonical = some ("#eq" : Text) →
    IsNode type item (single item.field (coerceValue type item.operator item.value))
  /-- every other operator is -/
  | shown {op : Text} : item.canonical = some op → op ≠ ("#eq" : Text) →
    IsNode type item (single op (single item.field (coerceValue type item.operator item.value)))

theorem isNode_node {schema : Schema} {item : ItemCondition}
    (h : item.isComplete = true) : item.IsNode (schema.lookup item.field) (item.node schema) := by
  simp only [isComplete, Bool.and_eq_true] at h
  obtain ⟨op, hop⟩ := Option.isSome_iff_exists.mp h.1.2
  simp only [node, hop]
  split_ifs with heq
  · exact .equality (by rw [hop, beq_iff_eq.mp heq])
  · exact .shown hop fun hcode => heq (beq_iff_eq.mpr hcode)

end ItemCondition

namespace Condition

/-- A node of the condition. A flat condition puts its leaf at the end of the path of its field,
with the operator around the path or at its end, or not shown if it is equality; a list condition
puts the nodes of its complete items, in their order, under logic, field and mode. -/
inductive IsNode (attributes : List Attribute) (c : Condition) : Value → Prop where
  /-- the operator stands around the path -/
  | around {op : Text} : c.isList attributes = false → c.canonical = some op →
    IsNode attributes c (single op (nestPath c.field (c.compiledLeaf attributes)))
  /-- the operator stands at the end of the path -/
  | inside {op : Text} : c.isList attributes = false → c.canonical = some op →
    IsNode attributes c (nestPath c.field (single op (c.compiledLeaf attributes)))
  /-- equality is not shown -/
  | equality : c.isList attributes = false → c.canonical = some ("#eq" : Text) →
    IsNode attributes c (nestPath c.field (c.compiledLeaf attributes))
  /-- the complete items -/
  | list {nodes : List Value} : c.isList attributes = true →
    List.Forall₂ (fun item node =>
      item.IsNode ((c.resolvedSchema attributes).lookup item.field) node) c.completeItems nodes →
    IsNode attributes c (single c.listMode.key (single (listFieldName c.field)
      (single c.listLogic.key (.list nodes))))

variable {attributes : List Attribute} {c : Condition} {node : Value}

/-- The nodes of the complete items are made with the types of the schema that counts. -/
theorem forall₂_isNode (attributes : List Attribute) (c : Condition) :
    List.Forall₂ (fun item node =>
        item.IsNode ((c.resolvedSchema attributes).lookup item.field) node)
      c.completeItems
      (c.completeItems.map (ItemCondition.node (c.resolvedSchema attributes))) :=
  List.forall₂_map_right_iff.mpr <| List.forall₂_same.mpr fun _ hitem =>
    ItemCondition.isNode_node (List.mem_filter.mp hitem).2

/-! ## The gate -/

/-- A list condition is complete if it has a field and a complete item, whatever its operator and
its value are. -/
theorem isComplete_iff_of_isList (h : c.isList attributes = true) :
    c.isComplete attributes = true ↔ c.field ≠ [] ∧ c.completeItems ≠ [] := by
  rw [isComplete, if_pos (of_decide_eq_true h), any_items_eq, Bool.and_eq_true, Bool.not_eq_true',
    Bool.not_eq_true', List.isEmpty_eq_false_iff, List.isEmpty_eq_false_iff]

theorem isSome_canonical_iff : c.canonical.isSome = true ↔ IsWritten c.operator :=
  isSome_canonicalOperator?_iff

/-- A flat condition is complete if its field and its operator are filled in, and its value too
unless the operator asks for existence. -/
theorem isComplete_iff_of_not_isList (h : c.isList attributes = false) :
    c.isComplete attributes = true ↔ c.field ≠ [] ∧ IsWritten c.operator ∧
      (findOperator? c.operator = some .exists ∨ findOperator? c.operator = some .notExist ∨
        IsGiven c.value) := by
  rw [isComplete, if_neg (of_decide_eq_false h), Bool.and_eq_true, Bool.not_eq_true',
    List.isEmpty_eq_false_iff, ← isSome_canonical_iff]
  refine and_congr_right fun _ => ?_
  cases hop : c.canonical with
  | none => exact iff_of_false Bool.false_ne_true fun hwritten => Bool.false_ne_true hwritten.1
  | some op =>
    rw [Bool.or_eq_true, asksExistence_iff hop, hasValue_iff, or_assoc]
    exact (and_iff_right rfl).symm

theorem exists_completeItem_iff : c.completeItems ≠ [] ↔ ∃ item ∈ c.items, item.field ≠ [] ∧
    IsWritten item.operator ∧ IsGiven item.value := by
  rw [completeItems, Ne, List.filter_eq_nil_iff]
  push Not
  exact exists_congr fun item => and_congr_right fun _ => ItemCondition.isComplete_iff

/-! ## The node -/

/-- The three forms of a flat node, around one leaf. -/
theorem flatNode_cases (attributes : List Attribute) (c : Condition) :
    (∃ invert, c.flatNode attributes =
        nestFieldPath c.field (c.compiledLeaf attributes) c.canonical invert) ∨
      findOperator? c.operator = some .eq ∧
        c.flatNode attributes = nestPath c.field (c.compiledLeaf attributes) := by
  have hkind : c.canonical.bind OperatorCode.ofCode? = findOperator? c.operator := rfl
  simp only [flatNode, compiledLeaf, hkind]
  split_ifs with hexists htakesList harray heq
  · exact .inl ⟨false, rfl⟩
  · exact .inl ⟨false, rfl⟩
  · exact .inl ⟨true, rfl⟩
  · exact .inr ⟨heq, rfl⟩
  · exact .inl ⟨false, rfl⟩

theorem isNode_flatNode {op : Text} (hlist : c.isList attributes = false)
    (hop : c.canonical = some op) : c.IsNode attributes (c.flatNode attributes) := by
  rcases flatNode_cases attributes c with ⟨invert, hnode⟩ | ⟨heq, hnode⟩
  · rw [hnode, hop]
    cases invert with
    | false => exact .around hlist hop
    | true => exact .inside hlist hop
  · rw [hnode]
    exact .equality hlist (canonical_eq heq)

/-- **What is built for a complete condition is its node.** -/
theorem isNode_of_node? (h : c.isComplete attributes = true) (hnode : c.node? attributes = some node) :
    c.IsNode attributes node := by
  cases hlist : c.isList attributes with
  | true =>
    rw [node?_of_isList hlist] at hnode
    rw [listNode?_eq hnode]
    exact .list hlist (forall₂_isNode attributes c)
  | false =>
    obtain ⟨-, hwritten, -⟩ := (isComplete_iff_of_not_isList hlist).mp h
    obtain ⟨op, hop⟩ := Option.isSome_iff_exists.mp (isSome_canonical_iff.mpr hwritten)
    rw [node?_of_not_isList hlist] at hnode
    obtain rfl := Option.some.inj hnode
    exact isNode_flatNode hlist hop

/-- **A complete condition has a node.** -/
theorem exists_node? (h : c.isComplete attributes = true) : ∃ node, c.node? attributes = some node := by
  cases hlist : c.isList attributes with
  | true =>
    obtain ⟨-, hitems⟩ := (isComplete_iff_of_isList hlist).mp h
    rw [node?_of_isList hlist, listNode?_eq_ite, if_neg (by simpa using hitems)]
    exact ⟨_, rfl⟩
  | false => exact ⟨_, node?_of_not_isList hlist⟩

/-! ## Reaching the output -/

/-- The filter of a condition on its own, if it compiles, holds the node of the condition exactly
if the condition is complete and the node has a text that can be encoded. -/
theorem node_compileFilter_one {logic : Logic} {compiled : CompiledFilter}
    (h : compileFilter attributes { conditions := [c], logic } = .ok compiled) :
    compiled.isEmpty = compiled.node.isNone ∧
      ∀ node, compiled.node = some node ↔ c.isComplete attributes = true ∧
        c.node? attributes = some node ∧ ∃ s, compact node = .ok s ∧ s.isEncodable = true := by
  obtain ⟨clause, hclause, hassemble⟩ := compileFilter_one_eq_ok_iff.mp h
  cases clause with
  | none =>
    obtain rfl := Except.ok.inj hassemble
    refine ⟨rfl, fun node => iff_of_false (fun hnone => by cases hnone) ?_⟩
    rintro ⟨hcomplete, hnode, htext⟩
    -- such a condition has a clause
    have hkept : c.clause? attributes = .ok (some ⟨node, c.explanation attributes⟩) :=
      clause?_eq_ok_some_iff.mpr
        ⟨hcomplete, hnode, ⟨exists_node?_eq_single hnode, htext⟩, rfl⟩
    rw [hclause] at hkept
    cases hkept
  | some clause =>
    obtain ⟨hcomplete, hnode, hsend, -⟩ := clause?_eq_ok_some_iff.mp hclause
    obtain ⟨hpart, -, hempty⟩ := assemble_singleton_eq_ok hsend hassemble
    rw [hpart, hempty]
    refine ⟨rfl, fun node => ⟨fun heq => ?_, fun hall => ?_⟩⟩
    · obtain rfl := Option.some.inj heq
      exact ⟨hcomplete, hnode, hsend.text⟩
    · rw [← hnode, hall.2.1]

/-- **The gate lets through what can be built.** A complete condition has a node, of the form it
should have; a condition on its own reaches the output exactly if it is complete and its node has
a text that can be encoded. A flat condition is complete if its field and its operator are filled
in, and its value too unless the operator asks for existence; a list condition if its field is
filled in and so are field, operator and value of one of its items. -/
theorem isComplete_decides (attributes : List Attribute) (c : Condition) :
    (c.isComplete attributes = true →
        ∃ node, c.node? attributes = some node ∧ c.IsNode attributes node) ∧
      (∀ logic compiled, compileFilter attributes { conditions := [c], logic } = .ok compiled →
        compiled.isEmpty = compiled.node.isNone ∧
          ∀ node, compiled.node = some node ↔ c.isComplete attributes = true ∧
            c.node? attributes = some node ∧ ∃ s, compact node = .ok s ∧ s.isEncodable = true) ∧
      (c.isList attributes = false → (c.isComplete attributes = true ↔
        c.field ≠ [] ∧ IsWritten c.operator ∧
          (findOperator? c.operator = some .exists ∨ findOperator? c.operator = some .notExist ∨
            IsGiven c.value))) ∧
      (c.isList attributes = true → (c.isComplete attributes = true ↔
        c.field ≠ [] ∧ ∃ item ∈ c.items, item.field ≠ [] ∧ IsWritten item.operator ∧
          IsGiven item.value)) := by
  refine ⟨fun hcomplete => ?_, fun _ _ => node_compileFilter_one, isComplete_iff_of_not_isList,
    fun hlist => ?_⟩
  · obtain ⟨node, hnode⟩ := exists_node? hcomplete
    exact ⟨node, hnode, isNode_of_node? hcomplete hnode⟩
  · rw [isComplete_iff_of_isList hlist, exists_completeItem_iff]

end Condition

/-- A condition without a type or an operator of its own, which makes it a list condition; its
first item asks for a value that is false, the second has no value. -/
def unpaidCondition : Condition where
  field := "data.Orders"
  listConditions := some [{ field := "paid", value := .bool false }, { field := "total" }]

theorem isComplete_decides_unpaid :
    unpaidCondition.isList [] = true ∧ ∃ compiled node,
      compileFilter [] { conditions := [unpaidCondition] } = .ok compiled ∧
        compiled.node = some node ∧ unpaidCondition.IsNode [] node ∧
        ∃ s, compact node = .ok s ∧ s.isEncodable = true := by
  have hlist : unpaidCondition.isList [] = true := by decide +kernel
  have hroot : (compileFilter [] { conditions := [unpaidCondition] }).toOption.map
      CompiledFilter.node = some (unpaidCondition.node? []) := by
    decide +kernel
  obtain ⟨hnode, hreaches, -, hcomplete⟩ := Condition.isComplete_decides [] unpaidCondition
  obtain ⟨node, hbuilt, hform⟩ := hnode ((hcomplete hlist).mpr
    ⟨List.cons_ne_nil _ _, { field := "paid", value := .bool false }, List.mem_cons_self,
      List.cons_ne_nil _ _, ⟨_, rfl, fun h => absurd (h _ List.mem_cons_self) (by decide)⟩,
      fun h => (by cases h), fun h => (by cases h)⟩)
  obtain ⟨compiled, hcompiled, hsame⟩ := exists_of_map_toOption hroot
  rw [hbuilt] at hsame
  obtain ⟨-, -, htext⟩ := ((hreaches _ compiled hcompiled).2 node).mp hsame
  exact ⟨hlist, compiled, node, hcompiled, hsame, hform, htext⟩

end ProfileFilter
