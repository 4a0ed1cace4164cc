import ProfileFilter.Proofs.Compile.Clauses

/-!
# What the compiler sees of a condition

The compiler looks at a condition when it asks whether it is complete, for its leaf, for the
nodes of its items, and for the explanation. It sees the operator only in its canonical
spelling, the items only as far as they are complete, and the known attributes only through the
type and the schema that count. Two conditions that agree in all this are *alike*, and what is
alike compiles alike.

Main statement: `compileFilter_eq_of_alike`.
-/

namespace ProfileFilter

/-! ## Items -/

/-- Whether an operator takes a list shows in its canonical spelling. -/
theorem coerceValue_congr {operator operator' : Option Text}
    (h : canonicalOperator? operator = canonicalOperator? operator')
    (type : Option AttributeType) (v : Value) :
    coerceValue type operator v = coerceValue type operator' v := by
  rw [coerceValue, coerceValue, takesList, takesList, findOperator?, findOperator?, h]

namespace ItemCondition

/-- Two items that the compiler cannot tell apart. -/
structure Alike (item item' : ItemCondition) : Prop where
  /-- the same field -/
  field : item.field = item'.field
  /-- the same operator, in its canonical spelling -/
  operator : item.canonical = item'.canonical
  /-- the same label -/
  label : operatorLabel item.operator = operatorLabel item'.operator
  /-- the same value -/
  value : item.value = item'.value

namespace Alike

variable {item item' : ItemCondition}

theorem refl (item : ItemCondition) : item.Alike item := ⟨rfl, rfl, rfl, rfl⟩

theorem isComplete_eq (h : item.Alike item') : item.isComplete = item'.isComplete := by
  rw [isComplete, isComplete, h.field, h.operator, h.value]

theorem node_eq (h : item.Alike item') (schema : Schema) :
    item.node schema = item'.node schema := by
  have hleaf : item.leaf schema = item'.leaf schema := by
    rw [leaf, leaf, h.field, h.value, coerceValue_congr h.operator]
  simp only [node, hleaf, h.field, h.operator]

theorem explanation_eq (h : item.Alike item') : item.explanation = item'.explanation := by
  rw [explanation, explanation, h.field, h.label, h.value]

end Alike

/-- Items that are alike one by one have complete items that are alike one by one. -/
theorem forall₂_alike_filter {items items' : List ItemCondition}
    (h : List.Forall₂ Alike items items') :
    List.Forall₂ Alike (items.filter isComplete) (items'.filter isComplete) := by
  induction h with
  | nil => exact .nil
  | cons hitem _ ih =>
    rw [List.filter_cons, List.filter_cons, hitem.isComplete_eq]
    split_ifs
    · exact .cons hitem ih
    · exact ih

/-- What does not tell alike items apart gives the same list for them. -/
theorem map_eq_of_forall₂_alike {β : Type} {f : ItemCondition → β}
    (hf : ∀ {item item' : ItemCondition}, item.Alike item' → f item = f item')
    {items items' : List ItemCondition} (h : List.Forall₂ Alike items items') :
    items.map f = items'.map f := by
  rw [← List.forall₂_eq_eq_eq, List.forall₂_map_left_iff, List.forall₂_map_right_iff]
  exact h.imp fun _ _ hitem => hf hitem

end ItemCondition

/-! ## Conditions -/

namespace Condition

/-- Two conditions, each with its known attributes, that the compiler cannot tell apart. -/
structure Alike (attributes attributes' : List Attribute) (c c' : Condition) : Prop where
  /-- the same field -/
  field : c.field = c'.field
  /-- the same operator, in its canonical spelling -/
  operator : c.canonical = c'.canonical
  /-- the same value -/
  value : c.value = c'.value
  /-- the same mode -/
  listMode : c.listMode = c'.listMode
  /-- the same logic of items -/
  listLogic : c.listLogic = c'.listLogic
  /-- complete items that are alike one by one -/
  items : List.Forall₂ ItemCondition.Alike c.completeItems c'.completeItems
  /-- the same type counts -/
  type : c.resolvedType attributes = c'.resolvedType attributes'
  /-- the same schema counts -/
  schema : c.resolvedSchema attributes = c'.resolvedSchema attributes'

/-- A list condition is complete if it has a field and a complete item at all. -/
theorem any_items_eq (c : Condition) :
    c.items.any ItemCondition.isComplete = !c.completeItems.isEmpty := by
  rw [Bool.eq_iff_iff, List.any_eq_true, Bool.not_eq_true', List.isEmpty_eq_false_iff,
    completeItems, Ne, List.filter_eq_nil_iff]
  push Not
  rfl

namespace Alike

variable {attributes attributes' : List Attribute} {c c' : Condition}

theorem leaf_eq (h : Alike attributes attributes' c c') :
    c.leaf attributes = c'.leaf attributes' := by
  rw [leaf, leaf, h.type, h.value, coerceValue_congr h.operator]

theorem isEmpty_completeItems_eq (h : Alike attributes attributes' c c') :
    c.completeItems.isEmpty = c'.completeItems.isEmpty := by
  rw [Bool.eq_iff_iff, List.isEmpty_iff_length_eq_zero, List.isEmpty_iff_length_eq_zero,
    h.items.length_eq]

theorem isComplete_eq (h : Alike attributes attributes' c c') :
    c.isComplete attributes = c'.isComplete attributes' := by
  simp only [isComplete, any_items_eq, h.field, h.type, h.isEmpty_completeItems_eq, h.operator,
    h.value]

theorem node?_eq (h : Alike attributes attributes' c c') :
    c.node? attributes = c'.node? attributes' := by
  have hflat : c.flatNode attributes = c'.flatNode attributes' := by
    simp only [flatNode, h.field, h.type, h.operator, h.leaf_eq]
  have hlist : c.listNode? attributes = c'.listNode? attributes' := by
    rw [listNode?_eq_ite, listNode?_eq_ite, h.isEmpty_completeItems_eq, h.listMode, h.field,
      h.listLogic, h.schema,
      ItemCondition.map_eq_of_forall₂_alike (fun hitem => hitem.node_eq _) h.items]
  rw [node?, node?, h.type, hflat, hlist]

theorem explanation_eq (h : Alike attributes attributes' c c') :
    c.explanation attributes = c'.explanation attributes' := by
  have hflat : c.flatExplanation attributes = c'.flatExplanation attributes' := by
    simp only [flatExplanation, h.field, h.operator, h.leaf_eq]
  have hlist : c.listExplanation = c'.listExplanation := by
    rw [listExplanation, listExplanation, h.listMode, h.field, h.listLogic,
      ItemCondition.map_eq_of_forall₂_alike (fun hitem => hitem.explanation_eq) h.items]
  rw [explanation, explanation, h.type, hflat, hlist]

/-- **Conditions that are alike make the same clause**, or stop the compilation alike. -/
theorem clause?_eq (h : Alike attributes attributes' c c') :
    c.clause? attributes = c'.clause? attributes' := by
  rw [clause?, clause?, h.isComplete_eq, h.node?_eq, h.explanation_eq]

end Alike

/-- The operator counts only in its canonical spelling, and the items only as far as they are
complete, except that a missing list is told from an empty one. -/
theorem alike_of_items {R : List ItemCondition → List ItemCondition → Prop}
    (hR : ∀ {items items' : List ItemCondition}, R items items' →
      List.Forall₂ ItemCondition.Alike (items.filter ItemCondition.isComplete)
        (items'.filter ItemCondition.isComplete))
    (attributes : List Attribute) {c : Condition} {operator : Option Text}
    {listConditions : Option (List ItemCondition)}
    (hoperator : c.canonical = canonicalOperator? operator)
    (hitems : Option.Rel R c.listConditions listConditions) :
    Alike attributes attributes c { c with operator, listConditions } := by
  have hpresent : c.listConditions.isSome = listConditions.isSome := by
    generalize c.listConditions = before at hitems
    cases hitems <;> rfl
  refine ⟨rfl, hoperator, rfl, rfl, rfl, ?_, ?_, rfl⟩
  · unfold completeItems items
    generalize c.listConditions = before at hitems
    cases hitems with
    | none => exact .nil
    | some hitems => exact hR hitems
  · unfold resolvedType
    rw [hoperator, hpresent]
    rfl

end Condition

/-! ## Whole filters -/

section

variable {attributes attributes' : List Attribute}

theorem clauses_eq_of_alike {conditions conditions' : List Condition}
    (h : List.Forall₂ (Condition.Alike attributes attributes') conditions conditions') :
    clauses attributes conditions = clauses attributes' conditions' := by
  induction h with
  | nil => rfl
  | cons hfirst _ ih => rw [clauses, clauses, hfirst.clause?_eq, ih]

/-- **Filters of conditions that are alike one by one compile alike.** -/
theorem compileFilter_eq_of_alike {filter filter' : FilterSet}
    (hlogic : filter.logic = filter'.logic)
    (h : List.Forall₂ (Condition.Alike attributes attributes') filter.conditions
      filter'.conditions) :
    compileFilter attributes filter = compileFilter attributes' filter' := by
  rw [compileFilter, compileFilter, hlogic, clauses_eq_of_alike h]

end

end ProfileFilter
