import ProfileFilter.Proofs.Compile.Pruned
import ProfileFilter.Proofs.Condition.ListValue

/-!
# What explanations show

A node and its explanation are made apart from each other. Where a value is shown, it is put into
words in the same way (`describeValue`), but not always the value that is sent: a flat condition
shows its value as it is sent, and an item of a list condition shows it as it was entered.

So an explanation shows what is sent of every flat condition, and of those items whose value is
told alike before and after it is made to fit its type and its operator (`IsToldAsSent`). In
particular a text under an operator that takes a list is never told as it is sent: it is sent as a
list, and a list is told between brackets (`describeValue_pieces_ne`).

Main statement: `compileFilter_tells`.
-/

namespace ProfileFilter

/-! ## Brackets -/

namespace Text

/-- How many brackets a text starts with. -/
def openings (t : Text) : Nat := (t.takeWhile (· == ('[' : CodePoint))).length

theorem openings_cons (t : Text) : openings (('[' : CodePoint) :: t) = openings t + 1 := by
  rw [openings, List.takeWhile_cons_of_pos (by simp)]
  rfl

theorem openings_cons_of_ne {c : CodePoint} (h : c ≠ '[') (t : Text) : openings (c :: t) = 0 := by
  rw [openings, List.takeWhile_cons_of_neg (by simpa using h)]
  rfl

theorem openings_append {u : Text} (h : openings u = 0) (t : Text) :
    openings (t ++ u) = openings t := by
  induction t with
  | nil => exact h
  | cons c t ih =>
    by_cases hc : c = '['
    · subst hc
      rw [List.cons_append, openings_cons, openings_cons, ih]
    · rw [List.cons_append, openings_cons_of_ne hc, openings_cons_of_ne hc]

theorem openings_takeWhile {p : CodePoint → Bool} (hp : p '[' = true) (t : Text) :
    openings (t.takeWhile p) = openings t := by
  induction t with
  | nil => rfl
  | cons c t ih =>
    by_cases hc : c = '['
    · subst hc
      rw [List.takeWhile_cons_of_pos hp, openings_cons, openings_cons, ih]
    · rw [openings_cons_of_ne hc]
      cases hpc : p c with
      | false => rw [List.takeWhile_cons_of_neg (by simp [hpc])]; rfl
      | true => rw [List.takeWhile_cons_of_pos hpc, openings_cons_of_ne hc]

theorem openings_of_allBlank {v : Text} (h : v.AllBlank) : openings v = 0 := by
  cases v with
  | nil => rfl
  | cons c v =>
    refine openings_cons_of_ne ?_ v
    rintro rfl
    exact absurd (h _ List.mem_cons_self) (by decide)

end Text

/-- What starts with a bracket is no value of any type. -/
theorem readAs?_bracket (type : AttributeType) (t : Text) :
    readAs? type (('[' : CodePoint) :: t) = none := by
  obtain ⟨rest, v, -, htrim, -⟩ := Text.exists_trim_cons (c := '[') (by decide) t
  cases type with
  | integer =>
    have hsign : splitSign (('[' : CodePoint) :: rest) = (false, ('[' : CodePoint) :: rest) := rfl
    have hdigits : readDigits 0 (('[' : CodePoint) :: rest) = none := rfl
    simp only [readAs?, readInteger?, htrim, hsign, hdigits]
    split_ifs <;> rfl
  | decimal =>
    rw [readAs?, readDecimal?, htrim]
    rfl
  | boolean =>
    rw [readAs?, readBool?, htrim]
    rfl
  | _ => rfl

theorem coerceScalar_bracket (type : Option AttributeType) (t : Text) :
    coerceScalar type (.text (('[' : CodePoint) :: t)) = .text (('[' : CodePoint) :: t) := by
  cases type with
  | none => rfl
  | some type => rw [coerceScalar, readAs?_bracket, Option.getD_none]

theorem describeValue_text (t : Text) : describeValue (.text t) = t := rfl

theorem describeValue_list (items : List Value) :
    describeValue (.list items) = "[" ++ Text.join ", " (describeValues items) ++ "]" := by
  rw [describeValue]

/-- The first piece of a text that starts with brackets starts with as many of them, and is left as
it is. -/
theorem exists_coerced_pieces (type : Option AttributeType) (body : Text) :
    ∃ rest others, Text.openings body = Text.openings rest ∧
      (splitListValue (.text (('[' : CodePoint) :: body))).map (coerceScalar type) =
        .text (('[' : CodePoint) :: rest) :: others := by
  obtain ⟨pieces, hsplit⟩ := Text.exists_splitOn_eq_cons ',' (('[' : CodePoint) :: body)
  rw [List.takeWhile_cons_of_pos rfl] at hsplit
  have hopenings := Text.openings_takeWhile (p := fun c => !(c == (',' : CodePoint))) rfl body
  generalize body.takeWhile (fun c => !(c == (',' : CodePoint))) = first at hsplit hopenings
  obtain ⟨rest, v, hv, htrim, rfl⟩ := Text.exists_trim_cons (c := '[') (by decide) first
  rw [Text.openings_append (Text.openings_of_allBlank hv)] at hopenings
  have hpiece : trimPiece? (.text (('[' : CodePoint) :: (rest ++ v))) =
      some (.text (('[' : CodePoint) :: rest)) := by
    rw [trimPiece?_text (htrim ▸ List.cons_ne_nil _ _), htrim]
  rw [splitListValue, hsplit, List.map_cons, List.filterMap_cons, hpiece, List.map_cons,
    coerceScalar_bracket]
  exact ⟨rest, _, hopenings.symm, rfl⟩

/-- A list is told as a bracket, its first item, and something that starts with no bracket. -/
theorem exists_describeValue_cons (v : Value) (others : List Value) :
    ∃ more, Text.openings more = 0 ∧
      describeValue (.list (v :: others)) = ('[' : CodePoint) :: (describeValue v ++ more) := by
  cases others with
  | nil => exact ⟨"]", rfl, rfl⟩
  | cons other others =>
    refine ⟨", " ++ Text.join ", " (describeValues (other :: others)) ++ "]", rfl, ?_⟩
    simp only [describeValue_list, describeValues, Text.join, List.append_assoc]
    rfl

/-- **A text is not told alike as its pieces**, whatever brackets stand in it: the pieces are told
with one more bracket in front. -/
theorem describeValue_pieces_ne (type : Option AttributeType) (t : Text) :
    describeValue (.list ((splitListValue (.text t)).map (coerceScalar type))) ≠ t := by
  intro h
  obtain ⟨body, rfl⟩ : ∃ body, t = ('[' : CodePoint) :: body :=
    ⟨_, h.symm.trans (describeValue_list _)⟩
  obtain ⟨rest, others, hrest, hpieces⟩ := exists_coerced_pieces type body
  obtain ⟨more, hmore, htold⟩ :=
    exists_describeValue_cons (.text (('[' : CodePoint) :: rest)) others
  rw [hpieces, htold, describeValue_text] at h
  have hopenings := congrArg Text.openings h
  rw [Text.openings_cons, Text.openings_append hmore, Text.openings_cons, Text.openings_cons,
    hrest] at hopenings
  omega

/-- A value is not told alike as a list of it alone. -/
theorem describeValue_ne_singleton {v : Value} (hv : ∀ t, v ≠ .text t)
    (type : Option AttributeType) :
    describeValue v ≠ describeValue (.list [coerceScalar type v]) := by
  rw [coerceScalar_of_ne_text hv, describeValue_list]
  intro h
  have hlength := congrArg List.length h
  rw [List.length_append, List.length_append] at hlength
  have hopen : (Text.ofString "[").length = 1 := rfl
  have hinner : Text.join ", " (describeValues [v]) = describeValue v := rfl
  rw [hinner] at hlength
  omega

/-! ## Values as they are entered and as they are sent -/

/-- The value is told as it is sent. A text is not sent as a list, and what is read from it is told
with the same text; a list is told like its pieces if it is taken apart into them; every other
value is not sent as a list. -/
def IsToldAsSent (type : Option AttributeType) (operator : Option Text) : Value → Prop
  | .text t => takesList operator = false ∧
      ∀ w, type.bind (readAs? · t) = some w → describeValue w = t
  | .list items | .tuple items => takesList operator = true →
      Text.join ", " (describeValues items) =
        Text.join ", " (describeValues ((items.filterMap trimPiece?).map (coerceScalar type)))
  | _ => takesList operator = false

theorem describeValue_coerceScalar_text_iff {type : Option AttributeType} {t : Text} :
    t = describeValue (coerceScalar type (.text t)) ↔
      ∀ w, type.bind (readAs? · t) = some w → describeValue w = t := by
  have hcoerced : coerceScalar type (.text t) = (type.bind (readAs? · t)).getD (.text t) := by
    cases type <;> rfl
  rw [hcoerced]
  cases type.bind (readAs? · t) with
  | none => exact iff_of_true rfl fun w hw => by cases hw
  | some w =>
    rw [Option.getD_some, eq_comm]
    exact ⟨fun htold w' hw => Option.some.inj hw ▸ htold, fun htold => htold w rfl⟩

theorem describeValue_list_inj {items pieces : List Value} :
    describeValue (.list items) = describeValue (.list pieces) ↔
      Text.join ", " (describeValues items) = Text.join ", " (describeValues pieces) := by
  rw [describeValue_list, describeValue_list, List.append_left_inj, List.append_right_inj]

/-- **When a value is told as it is sent.** -/
theorem describeValue_coerceValue_iff {type : Option AttributeType} {operator : Option Text}
    {v : Value} (hv : v ≠ .null) :
    describeValue v = describeValue (coerceValue type operator v) ↔
      IsToldAsSent type operator v := by
  cases htakesList : takesList operator with
  | false =>
    rw [coerceValue_of_not_takesList htakesList]
    cases v with
    | text t =>
      rw [describeValue_text, describeValue_coerceScalar_text_iff]
      exact (and_iff_right htakesList).symm
    | list | tuple =>
      rw [coerceScalar_of_ne_text (fun _ => Value.noConfusion)]
      exact iff_of_true rfl fun hlist => by rw [htakesList] at hlist; cases hlist
    | _ =>
      rw [coerceScalar_of_ne_text (fun _ => Value.noConfusion)]
      exact iff_of_true rfl htakesList
  | true =>
    rw [coerceValue_of_takesList htakesList]
    have hnever : ¬ takesList operator = false := by simp [htakesList]
    cases v with
    | null => exact absurd rfl hv
    | text t =>
      exact iff_of_false (fun htold => describeValue_pieces_ne type t htold.symm)
        fun htold => hnever htold.1
    | list items => exact describeValue_list_inj.trans (imp_iff_right htakesList).symm
    | tuple items =>
      have htuple : describeValue (.tuple items) = describeValue (.list items) := rfl
      rw [htuple]
      exact describeValue_list_inj.trans (imp_iff_right htakesList).symm
    | _ =>
      -- any other value is sent as a list of one
      exact iff_of_false (describeValue_ne_singleton (fun _ => Value.noConfusion) type) hnever

/-! ## Tellings -/

/-- A clause, or a part of one, with a value in it. -/
structure Telling extends Clause where
  /-- the value as it is sent -/
  sent : Value
  /-- what stands for it in the explanation -/
  shown : Text

/-- The explanation shows what is sent. -/
def Telling.IsFaithful (telling : Telling) : Prop := telling.shown = describeValue telling.sent

/-- How the items that count are named in an explanation. -/
def ListMode.quantifier : ListMode → Text
  | .all => "all items"
  | .any => "any item"

namespace ItemCondition

/-- The node of the item puts the leaf under the field, and that under the operator unless it is
equality. -/
inductive HasLeaf (item : ItemCondition) (leaf : Value) : Value → Prop where
  /-- equality is not shown -/
  | equality : item.canonical = some ("#eq" : Text) → HasLeaf item leaf (single item.field leaf)
  /-- every other operator is -/
  | shown {op : Text} : item.canonical = some op → op ≠ ("#eq" : Text) →
    HasLeaf item leaf (single op (single item.field leaf))

theorem IsNode.hasLeaf {item : ItemCondition} {type : Option AttributeType} {node : Value}
    (h : item.IsNode type node) :
    item.HasLeaf (coerceValue type item.operator item.value) node := by
  cases h with
  | equality hop => exact .equality hop
  | shown hop hne => exact .shown hop hne

/-- The part of a clause that an item makes: the node holds the value that is sent, and the
explanation shows a text for it. -/
structure Tells (item : ItemCondition) (telling : Telling) : Prop where
  /-- the node -/
  node : item.HasLeaf telling.sent telling.node
  /-- field, label of the operator, and value -/
  explanation : telling.explanation =
    item.field ++ " " ++ operatorLabel item.operator ++ " " ++ telling.shown

/-- What is told of an item: its value as it was entered. -/
def telling (schema : Schema) (item : ItemCondition) : Telling where
  node := item.node schema
  explanation := item.explanation
  sent := item.leaf schema
  shown := describeValue item.value

variable {schema : Schema} {item : ItemCondition}

theorem tells_telling (h : item.isComplete = true) : item.Tells (item.telling schema) where
  node := (isNode_node h).hasLeaf
  explanation := rfl

/-- The telling shows the value as it was entered, beside the value made to fit the type. So it
shows what is sent exactly if the one is told like the other. -/
structure IsToldBy (type : Option AttributeType) (item : ItemCondition) (telling : Telling) :
    Prop where
  /-- sent as it fits -/
  sent : telling.sent = coerceValue type item.operator item.value
  /-- shown as entered -/
  shown : telling.shown = describeValue item.value
  /-- when the two agree -/
  isFaithful_iff : telling.IsFaithful ↔ IsToldAsSent type item.operator item.value

theorem isToldBy_telling (h : item.isComplete = true) :
    item.IsToldBy (schema.lookup item.field) (item.telling schema) where
  sent := rfl
  shown := rfl
  isFaithful_iff := describeValue_coerceValue_iff (isComplete_iff.mp h).2.2.1

end ItemCondition

namespace Condition

/-- The node of a flat condition puts the leaf at the end of the path of the field, with the
operator around the path or at its end, or not shown if it is equality. -/
inductive HasLeaf (c : Condition) (leaf : Value) : Value → Prop where
  /-- the operator stands around the path -/
  | around {op : Text} : c.canonical = some op → HasLeaf c leaf (single op (nestPath c.field leaf))
  /-- the operator stands at the end of the path -/
  | inside {op : Text} : c.canonical = some op → HasLeaf c leaf (nestPath c.field (single op leaf))
  /-- equality is not shown -/
  | equality : c.canonical = some ("#eq" : Text) → HasLeaf c leaf (nestPath c.field leaf)

/-- Does the condition ask whether the field is there? -/
def isAboutExistence (c : Condition) : Bool :=
  (findOperator? c.operator).any OperatorCode.isExistence

/-- The clause of a condition, and the values it tells. A flat condition that asks for existence
tells none; every other flat condition tells one, and a list condition one for each complete
item. -/
inductive Tells (attributes : List Attribute) (c : Condition) (clause : Clause) :
    List Telling → Prop where
  /-- existence: no value is shown -/
  | existence : c.isList attributes = false → c.isAboutExistence = true →
    c.HasLeaf (.bool true) clause.node →
    clause.explanation = c.field ++ " " ++ operatorLabel c.canonical → Tells attributes c clause []
  /-- field, label of the operator, and value -/
  | flat {telling : Telling} : c.isList attributes = false → c.isAboutExistence = false →
    telling.toClause = clause → c.HasLeaf telling.sent clause.node →
    clause.explanation = c.field ++ " " ++ operatorLabel c.canonical ++ " " ++ telling.shown →
    Tells attributes c clause [telling]
  /-- field and mode, and the items under the logic -/
  | list {tellings : List Telling} : c.isList attributes = true →
    List.Forall₂ ItemCondition.Tells c.completeItems tellings →
    clause.node = single c.listMode.key (single (listFieldName c.field)
      (single c.listLogic.key (.list (tellings.map fun telling => telling.node)))) →
    clause.explanation = c.field ++ " has " ++ c.listMode.quantifier ++ " where " ++
      Text.join c.listLogic.separator (tellings.map fun telling => telling.explanation) →
    Tells attributes c clause tellings

variable {attributes : List Attribute} {c : Condition} {clause : Clause}

theorem IsNode.hasLeaf {node : Value} (hlist : c.isList attributes = false)
    (h : c.IsNode attributes node) : c.HasLeaf (c.compiledLeaf attributes) node := by
  cases h with
  | around _ hop => exact .around hop
  | inside _ hop => exact .inside hop
  | equality _ hop => exact .equality hop
  | list hislist =>
    rw [hlist] at hislist
    cases hislist

/-- **A flat condition tells what is sent.** -/
theorem exists_tells_of_not_isList (hlist : c.isList attributes = false)
    (h : c.clause? attributes = .ok (some clause)) :
    ∃ tellings, c.Tells attributes clause tellings ∧
      ∀ telling ∈ tellings, telling.IsFaithful := by
  obtain ⟨hcomplete, hnode, -, hexplanation⟩ := clause?_eq_ok_some_iff.mp h
  have hleaf := (isNode_of_node? hcomplete hnode).hasLeaf hlist
  have hkind : c.canonical.bind OperatorCode.ofCode? = findOperator? c.operator := rfl
  rw [explanation, if_neg (of_decide_eq_false hlist), flatExplanation, hkind] at hexplanation
  cases hexists : (findOperator? c.operator).any OperatorCode.isExistence with
  | true =>
    rw [compiledLeaf, if_pos hexists] at hleaf
    rw [if_pos hexists] at hexplanation
    exact ⟨[], .existence hlist hexists hleaf hexplanation, List.forall_mem_nil _⟩
  | false =>
    have hasks : ¬ (findOperator? c.operator).any OperatorCode.isExistence = true := by
      simp [hexists]
    rw [compiledLeaf, if_neg hasks] at hleaf
    rw [if_neg hasks] at hexplanation
    exact ⟨[⟨clause, c.leaf attributes, describeValue (c.leaf attributes)⟩],
      .flat hlist hexists rfl hleaf hexplanation, List.forall_mem_singleton.mpr rfl⟩

/-- **A list condition tells its items as they were entered.** -/
theorem exists_tells_of_isList (hlist : c.isList attributes = true)
    (h : c.clause? attributes = .ok (some clause)) :
    ∃ tellings, c.Tells attributes clause tellings ∧
      List.Forall₂ (fun item telling =>
          item.IsToldBy ((c.resolvedSchema attributes).lookup item.field) telling)
        c.completeItems tellings := by
  obtain ⟨-, hnode, -, hexplanation⟩ := clause?_eq_ok_some_iff.mp h
  rw [node?_of_isList hlist] at hnode
  rw [explanation, if_pos (of_decide_eq_true hlist)] at hexplanation
  refine ⟨c.completeItems.map (ItemCondition.telling (c.resolvedSchema attributes)),
    .list hlist ?_ ?_ ?_, ?_⟩
  · exact List.forall₂_map_right_iff.mpr <| List.forall₂_same.mpr fun _ hitem =>
      ItemCondition.tells_telling (isComplete_of_mem_completeItems hitem)
  · rw [listNode?_eq hnode, List.map_map]
    rfl
  · rw [hexplanation, List.map_map, listExplanation]
    cases c.listMode <;> rfl
  · exact List.forall₂_map_right_iff.mpr <| List.forall₂_same.mpr fun _ hitem =>
      ItemCondition.isToldBy_telling (isComplete_of_mem_completeItems hitem)

/-- The clause tells the value of a flat condition as it is sent, and those of the items of a list
condition as they were entered. -/
def IsToldBy (attributes : List Attribute) (c : Condition) (clause : Clause) : Prop :=
  ∃ tellings, c.Tells attributes clause tellings ∧
    (c.isList attributes = false → ∀ telling ∈ tellings, telling.IsFaithful) ∧
    (c.isList attributes = true →
      List.Forall₂ (fun item telling =>
          item.IsToldBy ((c.resolvedSchema attributes).lookup item.field) telling)
        c.completeItems tellings)

theorem isToldBy_of_clause? (h : c.clause? attributes = .ok (some clause)) :
    c.IsToldBy attributes clause := by
  cases hlist : c.isList attributes with
  | false =>
    obtain ⟨tellings, htells, hfaithful⟩ := exists_tells_of_not_isList hlist h
    refine ⟨tellings, htells, fun _ => hfaithful, fun htrue => ?_⟩
    rw [hlist] at htrue
    cases htrue
  | true =>
    obtain ⟨tellings, htells, hfaithful⟩ := exists_tells_of_isList hlist h
    refine ⟨tellings, htells, fun hfalse => ?_, fun _ => hfaithful⟩
    rw [hlist] at hfalse
    cases hfalse

end Condition

/-! ## Whole filters -/

/-- **What an explanation shows.** The document and the explanation of a filter are made of one
clause for each surviving condition, in their order. A clause shows the value of a flat condition
as it is sent, unless the condition asks for existence; of a list condition it shows the value of
each complete item as it was entered, and that is the value as it is sent exactly if the value is
told alike before and after it is made to fit its type and its operator. -/
theorem compileFilter_tells {attributes : List Attribute} {filter : FilterSet}
    {compiled : CompiledFilter} (h : compileFilter attributes filter = .ok compiled) :
    ∃ kept : List Clause,
      compiled.node = (if kept.map Clause.node = [] then none
        else some (rootNode filter.logic (kept.map Clause.node))) ∧
      compiled.explanation =
        Text.join filter.logic.separator (kept.map Clause.explanation) ∧
      List.Forall₂ (Condition.IsToldBy attributes) (filter.survivors attributes) kept := by
  obtain ⟨-, hassemble⟩ := compileFilter_eq_ok_iff.mp h
  obtain ⟨compiled', hassemble', -, hnode, -⟩ :=
    exists_assemble filter.logic attributes filter.conditions
  rw [hassemble] at hassemble'
  obtain rfl := Except.ok.inj hassemble'
  exact ⟨_, hnode, explanation_of_compileFilter h,
    (forall₂_survivors_kept? attributes filter).imp fun _ _ hkept =>
      Condition.isToldBy_of_clause? (Condition.kept?_eq_some_iff.mp hkept)⟩

/-- A condition on the color of an item, which is entered as a list in one text. -/
def colorCondition : Condition where
  field := "data.Orders"
  listConditions := some [{ field := "color", operator := some "in", value := .text "red, blue" }]

/-- A flat condition with blanks around its value, and the one on the color. -/
def toldFilter : FilterSet where
  conditions := [
    { field := "age", operator := some "gt", value := .text " 30 ", fieldType := some .integer },
    colorCondition]

/-- The number is told without its blanks, the colors are told as they were entered. -/
theorem compileFilter_tells_told :
    ∃ compiled kept, compileFilter [] toldFilter = .ok compiled ∧
      compiled.explanation =
        "age greater than 30 AND data.Orders has any item where color is one of red, blue" ∧
      List.Forall₂ (Condition.IsToldBy []) toldFilter.conditions kept := by
  have hwords : (compileFilter [] toldFilter).toOption.map CompiledFilter.explanation =
      some "age greater than 30 AND data.Orders has any item where color is one of red, blue" := by
    decide +kernel
  have hsurvive : toldFilter.survivors [] = toldFilter.conditions :=
    List.filter_eq_self.mpr (by decide +kernel)
  obtain ⟨compiled, hcompiled, hexplanation⟩ := exists_of_map_toOption hwords
  obtain ⟨kept, -, -, htold⟩ := compileFilter_tells hcompiled
  exact ⟨compiled, kept, hcompiled, hexplanation, hsurvive ▸ htold⟩

/-- The colors are sent as a list, which would be told between brackets, and the explanation shows
them without. -/
theorem compileFilter_color :
    (compileFilter [] { conditions := [colorCondition] }).toOption.map
        (fun compiled => (compiled.node, compiled.explanation)) =
      some (some (single "#any" (single "data\x01Orders" (single "#and"
          (.list [single "#in" (single "color" (.list [.text "red", .text "blue"]))])))),
        ("data.Orders has any item where color is one of red, blue" : Text)) ∧
      describeValue (.list [.text "red", .text "blue"]) = "[red, blue]" ∧
      ("red, blue" : Text) ≠ "[red, blue]" := by
  refine ⟨by decide +kernel, rfl, by decide⟩

end ProfileFilter
