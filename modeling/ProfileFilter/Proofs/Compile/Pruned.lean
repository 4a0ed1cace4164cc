import ProfileFilter.Proofs.Compile.Completeness
import ProfileFilter.Proofs.Compile.Dropping

/-!
# Incomplete items

An item that lacks its field, its operator or its value has no part in the node of its condition,
nor in the explanation. So incomplete items can be deleted, as many of them as one likes, as long
as the list of items stays: that a condition has such a list at all may be what makes it a list
condition.

Main statement: `compileFilter_pruned`.
-/

namespace ProfileFilter

/-- The items without some of those that are not complete. -/
inductive ItemCondition.Pruned : List ItemCondition → List ItemCondition → Prop where
  /-- no items -/
  | nil : Pruned [] []
  /-- the first item stays -/
  | keep (item : ItemCondition) {items items' : List ItemCondition} :
    Pruned items items' → Pruned (item :: items) (item :: items')
  /-- the first item is not complete, and is deleted -/
  | delete {item : ItemCondition} {items items' : List ItemCondition} :
    item.isComplete = false → Pruned items items' → Pruned (item :: items) items'

/-- The condition without some of its incomplete items; its list of items stays, perhaps empty. -/
inductive Condition.Pruned (c : Condition) : Condition → Prop where
  /-- only the items change -/
  | intro {listConditions : Option (List ItemCondition)} :
    Option.Rel ItemCondition.Pruned c.listConditions listConditions →
    Pruned c { c with listConditions }

/-- The filter set without some of the incomplete items of its conditions. -/
structure FilterSet.Pruned (filter filter' : FilterSet) : Prop where
  /-- the same logic -/
  logic : filter.logic = filter'.logic
  /-- the same conditions, as far as incomplete items are not concerned -/
  conditions : List.Forall₂ Condition.Pruned filter.conditions filter'.conditions

/-- **The complete items stay**, in their order. -/
theorem ItemCondition.Pruned.filter_isComplete_eq {items items' : List ItemCondition}
    (h : Pruned items items') : items.filter isComplete = items'.filter isComplete := by
  induction h with
  | nil => rfl
  | keep item _ ih => rw [List.filter_cons, List.filter_cons, ih]
  | delete hitem _ ih => rw [List.filter_cons, hitem, if_neg Bool.false_ne_true, ih]

theorem Condition.Pruned.alike {c c' : Condition} (h : c.Pruned c') (attributes : List Attribute) :
    Alike attributes attributes c c' := by
  obtain ⟨hitems⟩ := h
  refine alike_of_items (fun hpruned => ?_) attributes rfl hitems
  rw [hpruned.filter_isComplete_eq]
  exact List.forall₂_same.mpr fun item _ => .refl item

/-- The nodes that a filter is made of are those of its surviving conditions. -/
theorem forall₂_survivors_isNode (attributes : List Attribute) (filter : FilterSet) :
    List.Forall₂ (Condition.IsNode attributes) (filter.survivors attributes)
      ((filter.conditions.filterMap (Condition.kept? attributes)).map Clause.node) := by
  have hcomplete : ∀ c ∈ filter.survivors attributes, c.isComplete attributes = true := by
    intro c hc
    obtain ⟨clause, hkept⟩ := Option.isSome_iff_exists.mp (List.mem_filter.mp hc).2
    exact (Condition.clause?_eq_ok_some_iff.mp (Condition.kept?_eq_some_iff.mp hkept)).1
  have hnodes := (List.forall₂_and_left _ _).mpr
    ⟨hcomplete, forall₂_survivors_node attributes filter⟩
  exact hnodes.imp fun _ _ hc => Condition.isNode_of_node? hc.1 hc.2

/-- **Incomplete items are invisible.** Deleting some of them leaves the result of a filter as it
is, the explanation included, or stops the compilation alike. The document of the filter is made
of one node for each surviving condition, and the items of a list condition's node are those of
its complete items, in their order. -/
theorem compileFilter_pruned (attributes : List Attribute) (filter : FilterSet) :
    (∀ filter', filter.Pruned filter' →
        compileFilter attributes filter' = compileFilter attributes filter) ∧
      ∀ compiled, compileFilter attributes filter = .ok compiled → ∃ nodes,
        compiled.node = (if nodes = [] then none else some (rootNode filter.logic nodes)) ∧
          List.Forall₂ (Condition.IsNode attributes) (filter.survivors attributes) nodes := by
  constructor
  · intro filter' h
    exact (compileFilter_eq_of_alike h.logic
      (h.conditions.imp fun _ _ hc => hc.alike attributes)).symm
  · intro compiled hcompiled
    obtain ⟨-, hassemble⟩ := compileFilter_eq_ok_iff.mp hcompiled
    obtain ⟨compiled', hassemble', -, hnode, -⟩ :=
      exists_assemble filter.logic attributes filter.conditions
    rw [hassemble] at hassemble'
    obtain rfl := Except.ok.inj hassemble'
    exact ⟨_, hnode, forall₂_survivors_isNode attributes filter⟩

/-- Two list conditions with the given items, the second only for having items. -/
def itemFilter (items others : List ItemCondition) : FilterSet where
  conditions := [{ field := "orders", fieldType := some .list, listConditions := some items },
    { field := "visits", listConditions := some others }]

/-- An item with all it needs. -/
def fullItem : ItemCondition where
  field := "paid"
  value := .bool false

theorem compileFilter_pruned_items :
    (itemFilter [{ field := "total" }, fullItem] [{ value := .int 1 }]).Pruned
        (itemFilter [fullItem] []) ∧
      compileFilter [] (itemFilter [fullItem] []) =
        compileFilter [] (itemFilter [{ field := "total" }, fullItem] [{ value := .int 1 }]) ∧
      (compileFilter [] (itemFilter [fullItem] [])).toOption.map CompiledFilter.explanation =
        some "orders has any item where paid equals false" := by
  have hpruned : (itemFilter [{ field := "total" }, fullItem] [{ value := .int 1 }]).Pruned
      (itemFilter [fullItem] []) :=
    ⟨rfl, .cons ⟨.some (.delete (by decide) (.keep fullItem .nil))⟩
      (.cons ⟨.some (.delete (by decide) .nil)⟩ .nil)⟩
  exact ⟨hpruned, (compileFilter_pruned [] _).1 _ hpruned, by decide +kernel⟩

end ProfileFilter
