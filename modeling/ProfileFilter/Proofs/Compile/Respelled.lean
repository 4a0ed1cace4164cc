import ProfileFilter.Proofs.Compile.Alike
import ProfileFilter.Proofs.Operator.Spelling

/-!
# Operators under other spellings

An operator of the catalog may be written with or without the marker, and with blanks around it.
The spelling is consulted for the type, for completeness, for the leaf, for the node and for the
explanation, each time through the canonical spelling or the catalog. So conditions whose
operators are spelled in another way are alike, and a filter of them compiles to the same result.

Operators outside the catalog have one spelling only: an explanation shows them as they are
written.

Main statement: `compileFilter_respelled`.
-/

namespace ProfileFilter

/-! ## Operators -/

/-- The two spellings are one, or both spell the same operator of the catalog. -/
inductive SameOperator : Option Text → Option Text → Prop where
  /-- the spelling is left as it is -/
  | same (spelling : Option Text) : SameOperator spelling spelling
  /-- another spelling of an operator of the catalog -/
  | other {op : OperatorCode} {t u : Text} : op.IsSpelledBy t → op.IsSpelledBy u →
    SameOperator (some t) (some u)

namespace SameOperator

variable {spelling spelling' : Option Text}

theorem canonicalOperator?_eq (h : SameOperator spelling spelling') :
    canonicalOperator? spelling = canonicalOperator? spelling' := by
  cases h with
  | same => rfl
  | other ht hu =>
    rw [ProfileFilter.canonicalOperator?_eq (findOperator?_eq_some_iff.mpr ht),
      ProfileFilter.canonicalOperator?_eq (findOperator?_eq_some_iff.mpr hu)]

theorem operatorLabel_eq (h : SameOperator spelling spelling') :
    operatorLabel spelling = operatorLabel spelling' := by
  cases h with
  | same => rfl
  | other ht hu =>
    rw [operatorLabel, operatorLabel, findOperator?_eq_some_iff.mpr ht,
      findOperator?_eq_some_iff.mpr hu]

end SameOperator

/-! ## Conditions -/

/-- The item with its operator under another spelling, if at all. -/
inductive ItemCondition.Respelled (item : ItemCondition) : ItemCondition → Prop where
  /-- only the operator changes -/
  | intro {operator : Option Text} : SameOperator item.operator operator →
    Respelled item { item with operator }

/-- The condition with its operator and those of its items under other spellings, if at all. -/
inductive Condition.Respelled (c : Condition) : Condition → Prop where
  /-- only the operators change -/
  | intro {operator : Option Text} {listConditions : Option (List ItemCondition)} :
    SameOperator c.operator operator →
    Option.Rel (List.Forall₂ ItemCondition.Respelled) c.listConditions listConditions →
    Respelled c { c with operator, listConditions }

/-- The filter set with operators under other spellings. -/
structure FilterSet.Respelled (filter filter' : FilterSet) : Prop where
  /-- the same logic -/
  logic : filter.logic = filter'.logic
  /-- the same conditions, as far as operators are not concerned -/
  conditions : List.Forall₂ Condition.Respelled filter.conditions filter'.conditions

theorem ItemCondition.Respelled.alike {item item' : ItemCondition} (h : item.Respelled item') :
    item.Alike item' := by
  obtain ⟨hoperator⟩ := h
  exact ⟨rfl, hoperator.canonicalOperator?_eq, hoperator.operatorLabel_eq, rfl⟩

theorem Condition.Respelled.alike {c c' : Condition} (h : c.Respelled c')
    (attributes : List Attribute) : Alike attributes attributes c c' := by
  obtain ⟨hoperator, hitems⟩ := h
  exact alike_of_items
    (fun hall => ItemCondition.forall₂_alike_filter (hall.imp fun _ _ hitem => hitem.alike))
    attributes hoperator.canonicalOperator?_eq hitems

/-- **The spelling of an operator does not matter.** If operators of the catalog are written in
another way, in conditions or in items, the filter compiles to the same result, the explanation
included, or stops alike. -/
theorem compileFilter_respelled (attributes : List Attribute) {filter filter' : FilterSet}
    (h : filter.Respelled filter') :
    compileFilter attributes filter' = compileFilter attributes filter :=
  (compileFilter_eq_of_alike h.logic (h.conditions.imp fun _ _ hc => hc.alike attributes)).symm

/-- A flat condition and a list condition with the given operators; the operator of the second
item is outside the catalog. -/
def visitFilter (operator itemOperator : Text) : FilterSet where
  conditions := [
    { field := "age", operator, value := .text "30", fieldType := some .integer },
    { field := "visits", fieldType := some .list
      listConditions := some [{ field := "day", operator := itemOperator, value := .text "1, 2" },
        { field := "city", operator := some " like ", value := .text "Oslo" }] }]

theorem compileFilter_respelled_visits :
    (visitFilter "gt" "#notIn").Respelled (visitFilter " #gt" "notIn\n") ∧
      compileFilter [] (visitFilter " #gt" "notIn\n") = compileFilter [] (visitFilter "gt" "#notIn") ∧
      (compileFilter [] (visitFilter "gt" "#notIn")).toOption.map CompiledFilter.explanation = some
        ("age greater than 30 AND " ++
          "visits has any item where day is not one of 1, 2 AND city  like  Oslo" : Text) := by
  have hgt : SameOperator (some "gt") (some " #gt") :=
    .other (findOperator?_eq_some_iff.mp (show findOperator? (some "gt") = some .gt by decide))
      (findOperator?_eq_some_iff.mp (by decide))
  have hnotIn : SameOperator (some "#notIn") (some "notIn\n") :=
    .other (findOperator?_eq_some_iff.mp
        (show findOperator? (some "#notIn") = some .noneOf by decide))
      (findOperator?_eq_some_iff.mp (by decide))
  have hrespelled : (visitFilter "gt" "#notIn").Respelled (visitFilter " #gt" "notIn\n") :=
    ⟨rfl, .cons ⟨hgt, .none⟩ (.cons
      ⟨.same none, .some (.cons ⟨hnotIn⟩ (.cons ⟨.same _⟩ .nil))⟩ .nil)⟩
  exact ⟨hrespelled, compileFilter_respelled [] hrespelled, by decide +kernel⟩

end ProfileFilter
