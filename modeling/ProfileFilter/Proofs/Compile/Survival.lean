import ProfileFilter.Proofs.Compile.Completeness
import ProfileFilter.Proofs.Compile.Dropping
import ProfileFilter.Proofs.Json.Fate

/-!
# Types never decide what survives

The type of an attribute decides how a value is sent: a text becomes a number or a truth value, a
list of texts is read piece by piece, an operator stands around the path or at its end. None of
this changes the fate of a node. A text is read as a number or a truth value only if it can be
encoded, and what is read is always fit to be sent: an integer with too many digits, or a decimal
beyond the range of the format, is left the text it is.

So conditions that are written alike (`Condition.WrittenAlike`) survive alike, whatever types and
schemas say, as long as both are flat or both are list conditions.

Main statement: `compileFilter_survives`.
-/

namespace ProfileFilter

open Json

/-! ## Coercion keeps the fate -/

/-- **An integer that can be read can be written.** -/
theorem isWritableInt_of_readInteger? {t : Text} {n : Int} (h : readInteger? t = some n) :
    Value.isWritableInt n = true := by
  simp only [readInteger?] at h
  split_ifs at h with hlength
  obtain ⟨m, hm, rfl⟩ := Option.map_eq_some_iff.mp h
  rw [Bool.or_eq_true, not_or, decide_eq_true_eq, Nat.not_lt] at hlength
  have hbound := Text.lt_of_readDigits hm
  rw [Nat.zero_add, Nat.one_mul] at hbound
  exact Value.isWritableInt_signedInt
    (Nat.lt_of_lt_of_le hbound (Nat.pow_le_pow_right (by decide) hlength.2)) _

theorem fate_of_readAs? {type : AttributeType} {t : Text} {v : Value}
    (h : readAs? type t = some v) : fate v = .ok true := by
  cases type with
  | integer =>
    obtain ⟨n, hn, rfl⟩ := Option.map_eq_some_iff.mp h
    exact fate_int (isWritableInt_of_readInteger? hn)
  | decimal =>
    obtain ⟨x, hx, rfl⟩ := Option.map_eq_some_iff.mp h
    exact fate_float (Option.filter_eq_some_iff.mp hx).2
  | boolean =>
    obtain ⟨b, -, rfl⟩ := Option.map_eq_some_iff.mp h
    exact fate_bool b
  | _ => cases h

/-- A text is read as a value only if it can be encoded, and what is read can always be sent. -/
theorem fate_coerceScalar (type : Option AttributeType) (v : Value) :
    fate (coerceScalar type v) = fate v := by
  unfold coerceScalar
  split
  · next type t =>
    cases hread : readAs? type t with
    | none => rfl
    | some w =>
      rw [Option.getD_some, fate_of_readAs? hread, fate_text, isEncodable_of_readAs? hread]
  · rfl

/-- **The type has no part in the fate of a coerced value.** -/
theorem fate_coerceValue (type type' : Option AttributeType) (operator : Option Text) (v : Value) :
    fate (coerceValue type operator v) = fate (coerceValue type' operator v) := by
  unfold coerceValue
  split_ifs
  · refine fate_list_congr ?_
    rw [List.forall₂_map_left_iff, List.forall₂_map_right_iff, List.forall₂_same]
    intro piece _
    rw [fate_coerceScalar, fate_coerceScalar]
  · rw [fate_coerceScalar, fate_coerceScalar]

/-! ## Nodes -/

theorem fate_nestPath (path : Text) (leaf : Value) :
    fate (nestPath path leaf) = (fate leaf).map (path.isEncodable && ·) := by
  have hsegments : ∀ segments : List Text, fate (nestSegments segments leaf) =
      (fate leaf).map (segments.all Text.isEncodable && ·) := by
    intro segments
    induction segments with
    | nil => cases hleaf : fate leaf <;> simp [nestSegments, hleaf, Except.map]
    | cons segment rest ih =>
      rw [nestSegments, List.foldr_cons, fate_single, ← nestSegments, ih]
      cases fate leaf <;> simp [Except.map, Bool.and_assoc]
  rw [nestPath, hsegments, Text.all_isEncodable_splitOn rfl]

theorem fate_underOperator (operator : Option Text) (v : Value) :
    fate (underOperator operator v) = (fate v).map (operator.all Text.isEncodable && ·) := by
  cases operator with
  | none => cases hv : fate v <;> simp [underOperator, hv, Except.map]
  | some op => exact fate_single op v

/-- Wherever the operator stands, a path adds its own fate and that of the operator. -/
theorem fate_nestFieldPath (path : Text) (leaf : Value) (operator : Option Text) (invert : Bool) :
    fate (nestFieldPath path leaf operator invert) =
      (fate leaf).map ((path.isEncodable && operator.all Text.isEncodable) && ·) := by
  cases invert with
  | true =>
    show fate (nestPath path (underOperator operator leaf)) = _
    rw [fate_nestPath, fate_underOperator]
    cases fate leaf <;> simp [Except.map, Bool.and_assoc]
  | false =>
    show fate (underOperator operator (nestPath path leaf)) = _
    rw [fate_underOperator, fate_nestPath]
    cases fate leaf <;> simp [Except.map, Bool.and_assoc, Bool.and_left_comm]

namespace ItemCondition

/-- **The schema has no part in the fate of a complete item.** -/
theorem fate_node {item : ItemCondition} (h : item.isComplete = true) (schema schema' : Schema) :
    fate (item.node schema) = fate (item.node schema') := by
  have hfield : fate (single item.field (item.leaf schema)) =
      fate (single item.field (item.leaf schema')) := by
    rw [fate_single, fate_single, leaf, leaf, fate_coerceValue]
  obtain ⟨-, hwritten, -⟩ := isComplete_iff.mp h
  obtain ⟨op, hop⟩ := Option.isSome_iff_exists.mp (isSome_canonicalOperator?_iff.mpr hwritten)
  have hcanonical : item.canonical = some op := hop
  simp only [node, hcanonical]
  split_ifs
  · exact hfield
  · rw [fate_single, fate_single op, hfield]

end ItemCondition

namespace Condition

variable {attributes attributes' : List Attribute} {c c' : Condition}

/-- Two conditions that are written alike, whatever is said about types: only their types, their
schemas and their identifiers may differ. -/
structure WrittenAlike (c c' : Condition) : Prop where
  /-- the same field -/
  field : c.field = c'.field
  /-- the same operator -/
  operator : c.operator = c'.operator
  /-- the same value -/
  value : c.value = c'.value
  /-- the same mode -/
  listMode : c.listMode = c'.listMode
  /-- the same logic of items -/
  listLogic : c.listLogic = c'.listLogic
  /-- the same items -/
  listConditions : c.listConditions = c'.listConditions

/-- The operator of a flat node can be encoded even where it is not shown. -/
theorem fate_flatNode (attributes : List Attribute) (c : Condition) :
    fate (c.flatNode attributes) = (fate (c.compiledLeaf attributes)).map
      ((c.field.isEncodable && c.canonical.all Text.isEncodable) && ·) := by
  rcases flatNode_cases attributes c with ⟨invert, hnode⟩ | ⟨heq, hnode⟩
  · rw [hnode, fate_nestFieldPath]
  · have hcode : c.canonical.all Text.isEncodable = true := by
      rw [canonical_eq heq]
      exact Text.isEncodable_ofString _
    rw [hnode, fate_nestPath, hcode, Bool.and_true]

namespace WrittenAlike

theorem canonical_eq (h : c.WrittenAlike c') : c.canonical = c'.canonical := by
  rw [canonical, canonical, h.operator]

theorem completeItems_eq (h : c.WrittenAlike c') : c.completeItems = c'.completeItems := by
  rw [completeItems, completeItems, items, items, h.listConditions]

theorem isComplete_eq (h : c.WrittenAlike c')
    (hkind : c.isList attributes = c'.isList attributes') :
    c.isComplete attributes = c'.isComplete attributes' := by
  have htype : c.resolvedType attributes = some .list ↔ c'.resolvedType attributes' = some .list :=
    decide_eq_decide.mp hkind
  simp only [isComplete, any_items_eq, h.field, htype, h.completeItems_eq, h.canonical_eq, h.value]

theorem fate_compiledLeaf (h : c.WrittenAlike c') :
    fate (c.compiledLeaf attributes) = fate (c'.compiledLeaf attributes') := by
  unfold compiledLeaf leaf
  rw [h.operator, h.value]
  split_ifs
  · rfl
  · exact fate_coerceValue _ _ _ _

theorem fate_flatNode_eq (h : c.WrittenAlike c') :
    fate (c.flatNode attributes) = fate (c'.flatNode attributes') := by
  rw [fate_flatNode, fate_flatNode, h.fate_compiledLeaf, h.field, h.canonical_eq]

theorem fate_listNode?_eq (h : c.WrittenAlike c') :
    (c.listNode? attributes).map fate = (c'.listNode? attributes').map fate := by
  have hnodes : fate (.list (c'.completeItems.map (ItemCondition.node (c.resolvedSchema attributes)))) =
      fate (.list (c'.completeItems.map (ItemCondition.node (c'.resolvedSchema attributes')))) := by
    refine fate_list_congr ?_
    rw [List.forall₂_map_left_iff, List.forall₂_map_right_iff, List.forall₂_same]
    intro item hitem
    exact ItemCondition.fate_node (isComplete_of_mem_completeItems hitem) _ _
  rw [listNode?_eq_ite, listNode?_eq_ite, h.completeItems_eq, h.listMode, h.listLogic, h.field]
  split_ifs
  · rfl
  · rw [Option.map_some, Option.map_some, fate_single, fate_single, fate_single, hnodes,
      ← fate_single, ← fate_single, ← fate_single]

/-- **Nodes of conditions that are written alike have the same fate**, if both are flat or both
are list conditions. -/
theorem fate_node?_eq (h : c.WrittenAlike c') (hkind : c.isList attributes = c'.isList attributes') :
    (c.node? attributes).map fate = (c'.node? attributes').map fate := by
  cases hlist : c'.isList attributes' with
  | true =>
    rw [node?_of_isList hlist, node?_of_isList (hkind.trans hlist), h.fate_listNode?_eq]
  | false =>
    rw [node?_of_not_isList hlist, node?_of_not_isList (hkind.trans hlist), Option.map_some,
      Option.map_some, h.fate_flatNode_eq]

end WrittenAlike

/-! ## The fate of a condition -/

theorem isSent_iff_fate : c.isSent attributes = true ↔
    c.isComplete attributes = true ∧ (c.node? attributes).map fate = some (.ok true) := by
  rw [isSent_iff, Option.map_eq_some_iff]
  simp only [fate_eq_ok_true_iff, exists_and_left]

theorem isRefused_iff_fate : c.isRefused attributes = true ↔
    c.isComplete attributes = true ∧ (c.node? attributes).map fate = some (.error .key) := by
  rw [isRefused_iff, Option.map_eq_some_iff]
  simp only [fate_eq_error_iff]

/-- A condition on its own stops the compilation if it is refused, and leaves the filter empty
unless it is sent. -/
theorem map_isEmpty_compileFilter_one (attributes : List Attribute) (c : Condition)
    (logic : Logic) :
    (compileFilter attributes { conditions := [c], logic }).map CompiledFilter.isEmpty =
      if c.isRefused attributes then .error .key else .ok (!c.isSent attributes) := by
  have herror : ∀ e, compileFilter attributes { conditions := [c], logic } = .error e ↔
      e = .key ∧ c.isRefused attributes = true := by
    intro e
    rw [compileFilter_eq_error_iff]
    simp
  cases hcompiled : compileFilter attributes { conditions := [c], logic } with
  | error e =>
    obtain ⟨rfl, hrefused⟩ := (herror e).mp hcompiled
    rw [if_pos hrefused, Except.map]
  | ok compiled =>
    have hrefused : ¬ c.isRefused attributes = true := by
      intro hrefused
      rw [(herror .key).mpr ⟨rfl, hrefused⟩] at hcompiled
      cases hcompiled
    obtain ⟨hempty, hnode⟩ := node_compileFilter_one hcompiled
    have hsent : c.isSent attributes = compiled.node.isSome := by
      rw [Bool.eq_iff_iff, isSent_iff, Option.isSome_iff_exists]
      simp only [hnode, exists_and_left]
    rw [if_neg hrefused, Except.map, hempty, hsent, Option.not_isSome]

end Condition

/-- **Types never decide what survives.** Two conditions that are written alike, both flat or both
list conditions, have the same outcome on their own: the compilation is stopped, or the filter is
empty, or it is not, whatever types and schemas they carry or find in the known attributes. It is
not stopped if JSON has a form for all keys in the values. The same holds of each complete item:
the schema has no part in its fate. -/
theorem compileFilter_survives (attributes attributes' : List Attribute) {c c' : Condition}
    (h : c.WrittenAlike c') (hkind : c.isList attributes = c'.isList attributes')
    (logic : Logic) :
    (compileFilter attributes { conditions := [c], logic }).map CompiledFilter.isEmpty =
        (compileFilter attributes' { conditions := [c'], logic }).map CompiledFilter.isEmpty ∧
      ((c.ValuesHave fun v => v.hasJsonKeys = true) → ∃ compiled,
        compileFilter attributes { conditions := [c], logic } = .ok compiled) ∧
      ∀ item : ItemCondition, item.isComplete = true → ∀ schema schema',
        fate (item.node schema) = fate (item.node schema') := by
  refine ⟨?_, fun hkeys => ?_, fun item => ItemCondition.fate_node⟩
  · have hsent : c.isSent attributes = c'.isSent attributes' := by
      rw [Bool.eq_iff_iff, Condition.isSent_iff_fate, Condition.isSent_iff_fate,
        h.isComplete_eq hkind, h.fate_node?_eq hkind]
    have hrefused : c.isRefused attributes = c'.isRefused attributes' := by
      rw [Bool.eq_iff_iff, Condition.isRefused_iff_fate, Condition.isRefused_iff_fate,
        h.isComplete_eq hkind, h.fate_node?_eq hkind]
    rw [Condition.map_isEmpty_compileFilter_one, Condition.map_isEmpty_compileFilter_one, hsent,
      hrefused]
  · exact exists_compileFilter_eq_ok (List.forall_mem_singleton.mpr hkeys)

/-- A condition on several values, of which some spell numbers. -/
def amountCondition (type : AttributeType) : Condition where
  field := "order.amount"
  operator := some "in"
  value := .text "1, nan, 2e400"
  fieldType := some type

/-- An item whose value may be read as a number. -/
def amountItem : ItemCondition where
  field := "amount"
  operator := some "gt"
  value := .text "1e999"

theorem compileFilter_survives_amount :
    (amountCondition .decimal).WrittenAlike (amountCondition .array) ∧
      (amountCondition .decimal).isList [] = (amountCondition .array).isList [] ∧
      (compileFilter [] { conditions := [amountCondition .decimal] }).map CompiledFilter.isEmpty =
        (compileFilter [] { conditions := [amountCondition .array] }).map CompiledFilter.isEmpty ∧
      (∃ compiled, compileFilter [] { conditions := [amountCondition .decimal] } = .ok compiled ∧
        compiled.raw =
          "\x7b\"#in\":\x7b\"order\":\x7b\"amount\":[1.0,\"nan\",\"2e400\"]\x7d\x7d\x7d") ∧
      fate (amountItem.node [("amount", .decimal)]) = fate (amountItem.node []) := by
  have halike : (amountCondition .decimal).WrittenAlike (amountCondition .array) :=
    ⟨rfl, rfl, rfl, rfl, rfl, rfl⟩
  have hkind : (amountCondition .decimal).isList [] = (amountCondition .array).isList [] := rfl
  have hraw : (compileFilter [] { conditions := [amountCondition .decimal] }).toOption.map
      CompiledFilter.raw = some
        "\x7b\"#in\":\x7b\"order\":\x7b\"amount\":[1.0,\"nan\",\"2e400\"]\x7d\x7d\x7d" := by
    decide +kernel
  obtain ⟨hsame, hcompiles, hitem⟩ := compileFilter_survives [] [] halike hkind .and
  obtain ⟨compiled, hcompiled⟩ := hcompiles ⟨rfl, fun item hitem => by cases hitem⟩
  rw [hcompiled] at hraw
  exact ⟨halike, hkind, hsame, ⟨compiled, hcompiled, Option.some.inj hraw⟩,
    hitem amountItem (by decide) _ _⟩

end ProfileFilter
