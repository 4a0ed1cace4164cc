import ProfileFilter.Proofs.Compile.Unambiguous
import ProfileFilter.Proofs.Condition.Coercion
import ProfileFilter.Proofs.Text.Percent

/-!
# What explanations tell

Whether a condition is sent is decided by its node alone, but its explanation is made apart
from the node: it tells the operators and the values of items as they were entered, not as
they are sent. Nothing that cannot be told gets past the node all the same. What the
explanation tells of a complete condition is in the node, up to blanks, separators and the
codes of the catalog.

Main statements: every value an explanation tells can be told
(`Condition.isTellable_of_mem_explainedValues`), and no text of a compiled filter holds a
lone surrogate (`CompiledFilter.isEncodable_of_compileFilter`).
-/

namespace ProfileFilter

open Value

/-! ## Paths and operators -/

theorem isTellable_nestPath (path : Text) (leaf : Value) :
    (nestPath path leaf).isTellable = (path.isEncodable && leaf.isTellable) := by
  have hsegments : ∀ segments : List Text, (nestSegments segments leaf).isTellable =
      (segments.all Text.isEncodable && leaf.isTellable) := by
    intro segments
    induction segments with
    | nil => rfl
    | cons segment rest ih =>
      rw [nestSegments, List.foldr_cons, isTellable_single, ← nestSegments, ih, List.all_cons,
        Bool.and_assoc]
  rw [nestPath, hsegments, Text.all_isEncodable_splitOn rfl]

theorem isTellable_underOperator (operator : Option Text) (v : Value) :
    (underOperator operator v).isTellable = (operator.all Text.isEncodable && v.isTellable) := by
  cases operator with
  | none => rfl
  | some op => exact isTellable_single op v

theorem isTellable_nestFieldPath {path : Text} {leaf : Value} {operator : Option Text}
    {invert : Bool} : (nestFieldPath path leaf operator invert).isTellable = true ↔
      path.isEncodable = true ∧ operator.all Text.isEncodable = true ∧ leaf.isTellable = true := by
  cases invert with
  | true =>
    show (nestPath path (underOperator operator leaf)).isTellable = true ↔ _
    rw [isTellable_nestPath, isTellable_underOperator, Bool.and_eq_true, Bool.and_eq_true]
  | false =>
    show (underOperator operator (nestPath path leaf)).isTellable = true ↔ _
    rw [isTellable_underOperator, isTellable_nestPath, Bool.and_eq_true, Bool.and_eq_true,
      and_left_comm]

/-- Only blanks are lost of an operator, and only the marker is added. -/
theorem isEncodable_of_canonicalOperator {spelling op : Text}
    (h : canonicalOperator spelling = some op) (hop : op.isEncodable = true) :
    spelling.isEncodable = true := by
  rw [← Text.isEncodable_trim]
  unfold canonicalOperator at h
  split at h
  · cases h
  · next c rest htrim =>
    rw [htrim]
    split_ifs at h
    · rwa [← Option.some.inj h, Text.isEncodable_cons] at hop
    · rwa [← Option.some.inj h] at hop

/-- A label is from the catalog, or it is the operator itself. -/
theorem isEncodable_operatorLabel {operator : Option Text}
    (h : operator.all Text.isEncodable = true) : (operatorLabel operator).isEncodable = true := by
  unfold operatorLabel
  split
  · exact Text.isEncodable_ofString _
  · cases operator with
    | none => exact Text.isEncodable_ofString _
    | some op => exact h

/-! ## Items -/

namespace ItemCondition

variable {schema : Schema} {item : ItemCondition}

/-- What the node of an item tells of the item as it was entered. -/
theorem told_of_node (hcomplete : item.isComplete = true)
    (h : (item.node schema).isTellable = true) : item.field.isEncodable = true ∧
      item.operator.all Text.isEncodable = true ∧ item.value.isTellable = true := by
  rw [isComplete, Bool.and_eq_true, Bool.and_eq_true] at hcomplete
  obtain ⟨op, hop⟩ := Option.isSome_iff_exists.mp hcomplete.1.2
  obtain ⟨spelling, hspelling, hcanonical⟩ := Option.bind_eq_some_iff.mp hop
  -- the node holds the coerced value under the canonical operator, or under none for equality
  have hsplit : op.isEncodable = true ∧ item.field.isEncodable = true ∧
      (item.leaf schema).isTellable = true := by
    simp only [node, hop] at h
    split_ifs at h with heq
    · rw [isTellable_single, Bool.and_eq_true] at h
      rw [beq_iff_eq.mp heq]
      exact ⟨Text.isEncodable_ofString _, h⟩
    · rwa [isTellable_single, isTellable_single, Bool.and_eq_true, Bool.and_eq_true] at h
  obtain ⟨hopenc, hfield, hleaf⟩ := hsplit
  refine ⟨hfield, ?_, isTellable_of_coerceValue hleaf⟩
  rw [hspelling]
  exact isEncodable_of_canonicalOperator hcanonical hopenc

theorem isEncodable_explanation (hcomplete : item.isComplete = true)
    (h : (item.node schema).isTellable = true) : item.explanation.isEncodable = true := by
  obtain ⟨hfield, hoperator, hvalue⟩ := told_of_node hcomplete h
  simp [explanation, hfield, isEncodable_operatorLabel hoperator, isEncodable_describeValue hvalue]

end ItemCondition

/-! ## Conditions -/

namespace Condition

variable {attributes : List Attribute} {c : Condition} {node : Value}

/-- The values that the explanation of a condition tells: those of the complete items, or the
value as it is sent unless the condition asks for existence. -/
def explainedValues (attributes : List Attribute) (c : Condition) : List Value :=
  if c.resolvedType attributes = some .list then c.completeItems.map ItemCondition.value
  else if (c.canonical.bind OperatorCode.ofCode?).any OperatorCode.isExistence then []
  else [c.leaf attributes]

/-- What the node of a flat condition tells. An operator that is left out of the node is one of
the catalog. -/
theorem told_of_flatNode (h : (c.flatNode attributes).isTellable = true) :
    c.field.isEncodable = true ∧ c.canonical.all Text.isEncodable = true ∧
      ((c.canonical.bind OperatorCode.ofCode?).any OperatorCode.isExistence = false →
        (c.leaf attributes).isTellable = true) := by
  simp only [flatNode] at h
  split_ifs at h with hexists hlist harray heq
  · obtain ⟨hfield, hoperator, -⟩ := isTellable_nestFieldPath.mp h
    rw [hexists]
    exact ⟨hfield, hoperator, fun hfalse => by cases hfalse⟩
  · obtain ⟨hfield, hoperator, hleaf⟩ := isTellable_nestFieldPath.mp h
    exact ⟨hfield, hoperator, fun _ => hleaf⟩
  · obtain ⟨hfield, hoperator, hleaf⟩ := isTellable_nestFieldPath.mp h
    exact ⟨hfield, hoperator, fun _ => hleaf⟩
  -- equality leaves no trace of the operator, but its code is one of the catalog
  · rw [isTellable_nestPath, Bool.and_eq_true] at h
    obtain ⟨code, hcode, hop⟩ := Option.bind_eq_some_iff.mp heq
    refine ⟨h.1, ?_, fun _ => h.2⟩
    rw [hcode, OperatorCode.eq_code_of_ofCode? hop]
    exact Text.isEncodable_ofString _
  · obtain ⟨hfield, hoperator, hleaf⟩ := isTellable_nestFieldPath.mp h
    exact ⟨hfield, hoperator, fun _ => hleaf⟩

/-- What the node of a list condition tells: the field, and the nodes of the complete items. -/
theorem told_of_listNode? (hnode : c.listNode? attributes = some node)
    (h : node.isTellable = true) : c.field.isEncodable = true ∧
      ∀ item ∈ c.completeItems, (item.node (c.resolvedSchema attributes)).isTellable = true := by
  obtain rfl := listNode?_eq hnode
  rw [isTellable_single, isTellable_single, isTellable_single, Bool.and_eq_true, Bool.and_eq_true,
    Bool.and_eq_true, isTellable_list] at h
  obtain ⟨-, hfield, -, hitems⟩ := h
  refine ⟨?_, fun item hitem => hitems _ (List.mem_map_of_mem hitem)⟩
  rwa [listFieldName, Text.isEncodable_replace rfl rfl] at hfield

theorem isComplete_of_mem_completeItems {item : ItemCondition} (h : item ∈ c.completeItems) :
    item.isComplete = true :=
  List.of_mem_filter h

/-- **Every value an explanation tells can be told** if the node can. -/
theorem isTellable_of_mem_explainedValues (hnode : c.node? attributes = some node)
    (h : node.isTellable = true) {v : Value} (hv : v ∈ c.explainedValues attributes) :
    v.isTellable = true := by
  unfold node? at hnode
  unfold explainedValues at hv
  split_ifs at hnode hv with hlist hexists
  · obtain ⟨item, hitem, rfl⟩ := List.mem_map.mp hv
    have hitems := (told_of_listNode? hnode h).2
    exact (ItemCondition.told_of_node (isComplete_of_mem_completeItems hitem)
      (hitems item hitem)).2.2
  · cases hv
  · obtain rfl := Option.some.inj hnode
    obtain rfl := List.mem_singleton.mp hv
    exact (told_of_flatNode h).2.2 (Bool.not_eq_true _ ▸ hexists)

theorem isEncodable_flatExplanation (h : (c.flatNode attributes).isTellable = true) :
    (c.flatExplanation attributes).isEncodable = true := by
  obtain ⟨hfield, hoperator, hleaf⟩ := told_of_flatNode h
  have hlabel := isEncodable_operatorLabel hoperator
  simp only [flatExplanation]
  split_ifs with hexists
  · simp [hfield, hlabel]
  · simp [hfield, hlabel, isEncodable_describeValue (hleaf (Bool.not_eq_true _ ▸ hexists))]

theorem isEncodable_listExplanation (hnode : c.listNode? attributes = some node)
    (h : node.isTellable = true) : c.listExplanation.isEncodable = true := by
  obtain ⟨hfield, hitems⟩ := told_of_listNode? hnode h
  have hexplained : (c.completeItems.map ItemCondition.explanation).all Text.isEncodable = true := by
    rw [List.all_map, List.all_eq_true]
    intro item hitem
    exact ItemCondition.isEncodable_explanation (isComplete_of_mem_completeItems hitem)
      (hitems item hitem)
  unfold listExplanation
  cases c.listMode <;> simp [hfield, Text.isEncodable_join, hexplained]

/-- **The explanation is encodable** if the node can be told. -/
theorem isEncodable_explanation (hnode : c.node? attributes = some node)
    (h : node.isTellable = true) : (c.explanation attributes).isEncodable = true := by
  unfold node? at hnode
  unfold explanation
  split_ifs at hnode ⊢
  · exact isEncodable_listExplanation hnode h
  · obtain rfl := Option.some.inj hnode
    exact isEncodable_flatExplanation h

end Condition

/-! ## Whole filters -/

/-- The node of a condition that is kept has a text that can be encoded, so its explanation can
be encoded too. -/
theorem Condition.isEncodable_of_kept? {attributes : List Attribute} {c : Condition}
    {clause : Clause} (h : c.kept? attributes = some clause) :
    clause.explanation.isEncodable = true := by
  obtain ⟨-, hnode, hsend, hexplanation⟩ := clause?_eq_ok_some_iff.mp (kept?_eq_some_iff.mp h)
  obtain ⟨s, hs, henc⟩ := hsend.text
  rw [hexplanation]
  exact isEncodable_explanation hnode (Json.isTellable_of_compactWith hs henc)

/-- **No text of a compiled filter holds a lone surrogate.** -/
theorem CompiledFilter.isEncodable_of_compileFilter {attributes : List Attribute}
    {filter : FilterSet} {compiled : CompiledFilter}
    (h : compileFilter attributes filter = .ok compiled) : compiled.raw.isEncodable = true ∧
      compiled.encoded.isEncodable = true ∧ compiled.explanation.isEncodable = true := by
  obtain ⟨-, hassemble⟩ := compileFilter_eq_ok_iff.mp h
  rcases eq_or_ne (filter.conditions.filterMap (Condition.kept? attributes)) [] with hnil | hne
  · rw [hnil] at hassemble
    obtain rfl := Except.ok.inj hassemble
    exact ⟨rfl, rfl, rfl⟩
  · obtain ⟨raw, -, henc, -, heq⟩ :=
      assemble_of_isSendable filter.logic hne fun _ => isSendable_of_mem_kept
    rw [heq] at hassemble
    obtain rfl := Except.ok.inj hassemble
    refine ⟨henc, Percent.isEncodable_encode raw, ?_⟩
    rw [Text.isEncodable_join (Text.isEncodable_ofString _), List.all_map, List.all_eq_true]
    intro clause hclause
    obtain ⟨c, -, hkept⟩ := List.mem_filterMap.mp hclause
    exact Condition.isEncodable_of_kept? hkept

end ProfileFilter
