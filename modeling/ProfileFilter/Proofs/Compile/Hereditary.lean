import ProfileFilter.Proofs.Compile.Clauses

/-!
# What nodes inherit from values

Between the value a person enters and the node that is sent there are the coercion of the
value and the builders of the node. Neither makes anything new: coercion turns texts into
numbers and truth values, and the builders put values into lists and under text keys. A
property that survives these steps is *hereditary* (`Value.IsHereditary`): the nodes of a
condition have it if the values of the condition do.
-/

namespace ProfileFilter

/-- A property of values that texts, numbers and truth values all have, that a list has exactly
if its items do, and that a value passes on to a mapping with nothing else in it. -/
structure Value.IsHereditary (P : Value → Prop) : Prop where
  /-- every text has it -/
  text (t : Text) : P (.text t)
  /-- every integer has it -/
  int (n : Int) : P (.int n)
  /-- every floating-point number has it -/
  float (x : Binary64) : P (.float x)
  /-- truth values have it -/
  bool (b : Bool) : P (.bool b)
  /-- a list has it exactly if its items do -/
  list {items : List Value} : P (.list items) ↔ ∀ v ∈ items, P v
  /-- the elements of a fixed sequence have it if the sequence does -/
  tuple {items : List Value} : P (.tuple items) → ∀ v ∈ items, P v
  /-- a mapping with a single entry has it if the value of the entry does -/
  single (key : Text) {v : Value} : P v → P (single key v)

/-- The value of a condition and the values of its items have the property. -/
def Condition.ValuesHave (P : Value → Prop) (c : Condition) : Prop :=
  P c.value ∧ ∀ item ∈ c.items, P item.value

namespace Value.IsHereditary

variable {P : Value → Prop} {v : Value}

/-! ## Coercion -/

theorem of_trimPiece? (h : IsHereditary P) {piece : Value} (hv : P v)
    (hpiece : trimPiece? v = some piece) : P piece := by
  cases v with
  | text t =>
    simp only [trimPiece?] at hpiece
    split_ifs at hpiece
    rw [← Option.some.inj hpiece]
    exact h.text _
  | _ =>
    rw [← Option.some.inj hpiece]
    exact hv

theorem of_mem_splitListValue (h : IsHereditary P) {piece : Value} (hv : P v)
    (hpiece : piece ∈ splitListValue v) : P piece := by
  have hpieces : ∀ items : List Value, (∀ w ∈ items, P w) →
      piece ∈ items.filterMap trimPiece? → P piece := by
    intro items hitems hmem
    obtain ⟨w, hw, htrim⟩ := List.mem_filterMap.mp hmem
    exact h.of_trimPiece? (hitems w hw) htrim
  cases v with
  | null => cases hpiece
  | text t =>
    refine hpieces _ (fun w hw => ?_) hpiece
    obtain ⟨part, -, rfl⟩ := List.mem_map.mp hw
    exact h.text part
  | list items => exact hpieces items (h.list.mp hv) hpiece
  | tuple items => exact hpieces items (h.tuple hv) hpiece
  | _ =>
    obtain rfl := List.mem_singleton.mp hpiece
    exact hv

theorem of_readAs? (h : IsHereditary P) {type : AttributeType} {t : Text}
    (hread : readAs? type t = some v) : P v := by
  cases type with
  | integer =>
    obtain ⟨n, -, rfl⟩ := Option.map_eq_some_iff.mp hread
    exact h.int n
  | decimal =>
    obtain ⟨x, -, rfl⟩ := Option.map_eq_some_iff.mp hread
    exact h.float x
  | boolean =>
    obtain ⟨b, -, rfl⟩ := Option.map_eq_some_iff.mp hread
    exact h.bool b
  | _ => cases hread

theorem coerceScalar (h : IsHereditary P) (type : Option AttributeType) (hv : P v) :
    P (coerceScalar type v) := by
  unfold ProfileFilter.coerceScalar
  split
  · next type t =>
    cases hread : readAs? type t with
    | none => exact h.text t
    | some w => exact h.of_readAs? hread
  · exact hv

/-- **Coercion keeps a hereditary property.** -/
theorem coerceValue (h : IsHereditary P) (type : Option AttributeType) (operator : Option Text)
    (hv : P v) : P (coerceValue type operator v) := by
  unfold ProfileFilter.coerceValue
  split_ifs
  · refine h.list.mpr fun w hw => ?_
    obtain ⟨piece, hpiece, rfl⟩ := List.mem_map.mp hw
    exact h.coerceScalar type (h.of_mem_splitListValue hv hpiece)
  · exact h.coerceScalar type hv

/-! ## Nodes -/

theorem underOperator (h : IsHereditary P) (operator : Option Text) (hv : P v) :
    P (underOperator operator v) := by
  cases operator with
  | none => exact hv
  | some op => exact h.single op hv

theorem nestPath (h : IsHereditary P) (path : Text) (hv : P v) : P (nestPath path v) := by
  unfold ProfileFilter.nestPath nestSegments
  induction path.splitOn '.' with
  | nil => exact hv
  | cons segment segments ih => exact h.single segment ih

theorem nestFieldPath (h : IsHereditary P) (path : Text) (operator : Option Text) (invert : Bool)
    (hv : P v) : P (nestFieldPath path v operator invert) := by
  unfold ProfileFilter.nestFieldPath
  split_ifs
  · exact h.nestPath path (h.underOperator operator hv)
  · exact h.underOperator operator (h.nestPath path hv)

/-- A complete item has an operator, so its node is filed under texts only. -/
theorem itemNode (h : IsHereditary P) {schema : Schema} {item : ItemCondition}
    (hcomplete : item.isComplete = true) (hvalue : P item.value) : P (item.node schema) := by
  have hfield : P (ProfileFilter.single item.field (item.leaf schema)) :=
    h.single _ (h.coerceValue _ _ hvalue)
  simp only [ItemCondition.isComplete, Bool.and_eq_true] at hcomplete
  obtain ⟨op, hop⟩ := Option.isSome_iff_exists.mp hcomplete.1.2
  simp only [ItemCondition.node, hop]
  split_ifs
  · exact hfield
  · exact h.single op hfield

variable {attributes : List Attribute} {c : Condition}

theorem flatNode (h : IsHereditary P) (hvalue : P c.value) : P (c.flatNode attributes) := by
  have hleaf : P (c.leaf attributes) := h.coerceValue _ _ hvalue
  simp only [Condition.flatNode]
  split_ifs
  · exact h.nestFieldPath _ _ _ (h.bool true)
  · exact h.nestFieldPath _ _ _ hleaf
  · exact h.nestFieldPath _ _ _ hleaf
  · exact h.nestPath _ hleaf
  · exact h.nestFieldPath _ _ _ hleaf

theorem listNode? (h : IsHereditary P) {node : Value} (hc : c.ValuesHave P)
    (hnode : c.listNode? attributes = some node) : P node := by
  rw [Condition.listNode?_eq hnode]
  refine h.single _ (h.single _ (h.single _ (h.list.mpr ?_)))
  intro v hv
  obtain ⟨item, hitem, rfl⟩ := List.mem_map.mp hv
  obtain ⟨hmem, hcomplete⟩ := List.mem_filter.mp hitem
  exact h.itemNode hcomplete (hc.2 item hmem)

/-- **Nodes inherit what the values of their condition have.** -/
theorem node? (h : IsHereditary P) {node : Value} (hc : c.ValuesHave P)
    (hnode : c.node? attributes = some node) : P node := by
  unfold Condition.node? at hnode
  split_ifs at hnode
  · exact h.listNode? hc hnode
  · rw [← Option.some.inj hnode]
    exact h.flatNode hc.1

theorem rootNode (h : IsHereditary P) {logic : Logic} {nodes : List Value}
    (hnodes : ∀ node ∈ nodes, P node) : P (rootNode logic nodes) := by
  unfold ProfileFilter.rootNode
  split
  · exact hnodes _ (List.mem_singleton_self _)
  · exact h.single _ (h.list.mpr hnodes)

end Value.IsHereditary

end ProfileFilter
