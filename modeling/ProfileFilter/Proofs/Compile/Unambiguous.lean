import ProfileFilter.Proofs.Compile.NodeText

/-!
# Compiled text is unambiguous

Two filter sets with the same compiled text have the same surviving conditions, as far as
the text says anything about them. The filters are *regular*: operators are those of the
catalog, names do not start with the operator marker, and leaves are not mappings. Then
each node can be read from the outside in: the root by the key of the logic, a list
condition by the key of its mode, a flat one by its path and its operator.

Main statement: `compileFilter_unambiguous`.
-/

namespace ProfileFilter

open Json

/-! ## Regular filters -/

namespace ItemCondition

/-- Is the operator in the catalog, the field not marked, and the leaf not a mapping? -/
def isRegular (schema : Schema) (item : ItemCondition) : Bool :=
  (findOperator? item.operator).isSome && !isMarked item.field && !(item.leaf schema).isMapping

/-- The items have the same field, operator and leaf. -/
structure Agrees (schema schema' : Schema) (item item' : ItemCondition) : Prop where
  /-- the same field -/
  field : item.field = item'.field
  /-- the same operator, in its canonical spelling -/
  operator : item.canonical = item'.canonical
  /-- leaves with the same text -/
  leaf : SameText (item.leaf schema) (item'.leaf schema')

end ItemCondition

namespace Condition

/-- Is this a list condition? -/
def isList (attributes : List Attribute) (c : Condition) : Bool :=
  c.resolvedType attributes = some .list

/-- The value that a flat condition puts at the end of its path. -/
def compiledLeaf (attributes : List Attribute) (c : Condition) : Value :=
  if (findOperator? c.operator).any OperatorCode.isExistence then .bool true
  else c.leaf attributes

/-- Are the operators in the catalog, no names marked, and no leaves mappings? -/
def isRegular (attributes : List Attribute) (c : Condition) : Bool :=
  if c.isList attributes then
    c.completeItems.all (ItemCondition.isRegular (c.resolvedSchema attributes))
  else
    (findOperator? c.operator).isSome && isPlainPath c.field &&
      !(c.compiledLeaf attributes).isMapping

/-- Two conditions are of the same kind and agree in everything their nodes are made of. -/
inductive Agrees (attributes attributes' : List Attribute) (c c' : Condition) : Prop where
  /-- flat conditions: the same field, operator and leaf -/
  | flat : c.isList attributes = false → c'.isList attributes' = false →
    c.field = c'.field → c.canonical = c'.canonical →
    SameText (c.compiledLeaf attributes) (c'.compiledLeaf attributes') →
    Agrees attributes attributes' c c'
  /-- list conditions: the same mode, field, logic and items -/
  | list : c.isList attributes = true → c'.isList attributes' = true →
    c.listMode = c'.listMode → listFieldName c.field = listFieldName c'.field →
    c.listLogic = c'.listLogic →
    List.Forall₂ (ItemCondition.Agrees (c.resolvedSchema attributes)
      (c'.resolvedSchema attributes')) c.completeItems c'.completeItems →
    Agrees attributes attributes' c c'

end Condition

namespace FilterSet

/-- The conditions that reach the output. -/
def survivors (attributes : List Attribute) (filter : FilterSet) : List Condition :=
  filter.conditions.filter fun c => (c.kept? attributes).isSome

/-- Are all surviving conditions regular? -/
def IsRegular (attributes : List Attribute) (filter : FilterSet) : Prop :=
  ∀ c ∈ filter.survivors attributes, c.isRegular attributes = true

end FilterSet

/-! ## Items -/

namespace ItemCondition

variable {schema schema' : Schema} {item item' : ItemCondition}

theorem canonical_eq {op : OperatorCode} (h : findOperator? item.operator = some op) :
    item.canonical = some (op.code : Text) :=
  canonicalOperator?_eq h

theorem under_node {op : OperatorCode} (h : findOperator? item.operator = some op) :
    Under op (single item.field (item.leaf schema)) (item.node schema) := by
  simp only [node, canonical_eq h]
  split_ifs with heq
  · exact .equality (OperatorCode.code_inj (beq_iff_eq.mp heq))
  · exact .shown

/-- **Items can be told from the texts of their nodes.** -/
theorem agrees_of_sameText (h : item.isRegular schema = true)
    (h' : item'.isRegular schema' = true)
    (hsame : SameText (item.node schema) (item'.node schema')) :
    item.Agrees schema schema' item' := by
  simp only [isRegular, Bool.and_eq_true, Bool.not_eq_true'] at h h'
  obtain ⟨⟨hop, hfield⟩, -⟩ := h
  obtain ⟨⟨hop', hfield'⟩, -⟩ := h'
  obtain ⟨op, hop⟩ := Option.isSome_iff_exists.mp hop
  obtain ⟨op', hop'⟩ := Option.isSome_iff_exists.mp hop'
  obtain ⟨rfl, hfields⟩ := (under_node hop).agree (under_node hop') (isBare_single hfield _)
    (isBare_single hfield' _) hsame
  obtain ⟨hfieldEq, hleaf⟩ := sameText_single hfields
  exact ⟨hfieldEq, by rw [canonical_eq hop, canonical_eq hop'], hleaf⟩

theorem forall₂_agrees_of_sameText {items items' : List ItemCondition}
    (h : ∀ item ∈ items, item.isRegular schema = true)
    (h' : ∀ item ∈ items', item.isRegular schema' = true)
    (hsame : List.Forall₂ SameText (items.map (node schema)) (items'.map (node schema'))) :
    List.Forall₂ (Agrees schema schema') items items' := by
  rw [List.forall₂_map_left_iff, List.forall₂_map_right_iff] at hsame
  induction hsame with
  | nil => exact .nil
  | cons hnodes _ ih =>
    obtain ⟨hitem, hrest⟩ := List.forall_mem_cons.mp h
    obtain ⟨hitem', hrest'⟩ := List.forall_mem_cons.mp h'
    exact .cons (agrees_of_sameText hitem hitem' hnodes) (ih hrest hrest')

end ItemCondition

/-! ## Conditions -/

namespace Condition

variable {attributes attributes' : List Attribute} {c c' : Condition} {node node' : Value}

theorem canonical_eq {op : OperatorCode} (h : findOperator? c.operator = some op) :
    c.canonical = some (op.code : Text) :=
  canonicalOperator?_eq h

/-- The node of a flat condition has one of the shapes. -/
theorem flatShape_flatNode {op : OperatorCode} (h : findOperator? c.operator = some op) :
    FlatShape op c.field (c.compiledLeaf attributes) (c.flatNode attributes) := by
  have hkind : c.canonical.bind OperatorCode.ofCode? = some op := h
  have hcode := canonical_eq h
  simp only [flatNode, compiledLeaf, h, hkind]
  rw [hcode]
  simp only [Option.any_some]
  split_ifs with hexists hlist harray heq
  · exact .around
  · exact .around
  · exact .inside .shown
  · exact .inside (.equality (Option.some.inj heq))
  · exact .around

theorem node?_of_isList (h : c.isList attributes = true) :
    c.node? attributes = c.listNode? attributes :=
  if_pos (of_decide_eq_true h)

theorem node?_of_not_isList (h : c.isList attributes = false) :
    c.node? attributes = some (c.flatNode attributes) :=
  if_neg (of_decide_eq_false h)

/-- What it means for a flat condition to be regular. -/
theorem isRegular_of_not_isList (h : c.isRegular attributes = true)
    (hlist : c.isList attributes = false) :
    (∃ op, findOperator? c.operator = some op) ∧ isPlainPath c.field = true ∧
      (c.compiledLeaf attributes).isMapping = false := by
  rw [isRegular, hlist] at h
  simp only [Bool.false_eq_true, if_false, Bool.and_eq_true, Bool.not_eq_true'] at h
  exact ⟨Option.isSome_iff_exists.mp h.1.1, h.1.2, h.2⟩

theorem isRegular_of_isList (h : c.isRegular attributes = true)
    (hlist : c.isList attributes = true) :
    ∀ item ∈ c.completeItems, item.isRegular (c.resolvedSchema attributes) = true := by
  rw [isRegular, hlist, if_pos rfl] at h
  exact List.all_eq_true.mp h

/-- A node has a single key, which tells a list condition by its mode and is never that of
a logic. -/
theorem exists_node_key (h : c.isRegular attributes = true)
    (hnode : c.node? attributes = some node) :
    ∃ key v, node = single key v ∧ (∀ logic : Logic, key ≠ logic.key) ∧
      (c.isList attributes = false → ∀ mode : ListMode, key ≠ mode.key) ∧
      (c.isList attributes = true → key = c.listMode.key) := by
  cases hlist : c.isList attributes with
  | true =>
    rw [node?_of_isList hlist] at hnode
    refine ⟨_, _, listNode?_eq hnode, ?_, ?_, fun _ => rfl⟩
    · intro logic
      cases c.listMode <;> cases logic <;> decide
    · intro hfalse
      cases hfalse
  | false =>
    rw [node?_of_not_isList hlist] at hnode
    obtain rfl := Option.some.inj hnode
    obtain ⟨⟨op, hop⟩, hpath, -⟩ := isRegular_of_not_isList h hlist
    obtain ⟨key, v, heq, hmode, hlogic⟩ := (flatShape_flatNode hop).exists_key hpath
    refine ⟨key, v, heq, hlogic, fun _ => hmode, ?_⟩
    intro htrue
    cases htrue

/-- Conditions with the same text are of the same kind. -/
theorem isList_eq_of_sameText (h : c.isRegular attributes = true)
    (h' : c'.isRegular attributes' = true) (hnode : c.node? attributes = some node)
    (hnode' : c'.node? attributes' = some node') (hsame : SameText node node') :
    c.isList attributes = c'.isList attributes' := by
  obtain ⟨key, v, rfl, -, hflat, hlist⟩ := exists_node_key h hnode
  obtain ⟨key', v', rfl, -, hflat', hlist'⟩ := exists_node_key h' hnode'
  obtain ⟨rfl, -⟩ := sameText_single hsame
  cases hc : c.isList attributes with
  | true =>
    cases hc' : c'.isList attributes' with
    | true => rfl
    | false => exact absurd (hlist hc) (hflat' hc' _)
  | false =>
    cases hc' : c'.isList attributes' with
    | true => exact absurd (hlist' hc') (hflat hc _)
    | false => rfl

/-- **Conditions can be told from the texts of their nodes.** -/
theorem agrees_of_sameText (h : c.isRegular attributes = true)
    (h' : c'.isRegular attributes' = true) (hnode : c.node? attributes = some node)
    (hnode' : c'.node? attributes' = some node') (hsame : SameText node node') :
    Agrees attributes attributes' c c' := by
  have hkind := isList_eq_of_sameText h h' hnode hnode' hsame
  cases hlist : c.isList attributes with
  | true =>
    rw [hlist] at hkind
    rw [node?_of_isList hlist] at hnode
    rw [node?_of_isList hkind.symm] at hnode'
    rw [listNode?_eq hnode, listNode?_eq hnode'] at hsame
    obtain ⟨hmode, hfields⟩ := sameText_single hsame
    obtain ⟨hfield, hlogics⟩ := sameText_single hfields
    obtain ⟨hlogic, hitems⟩ := sameText_single hlogics
    exact .list hlist hkind.symm (modeKey_inj hmode) hfield (logicKey_inj hlogic)
      (ItemCondition.forall₂_agrees_of_sameText (isRegular_of_isList h hlist)
        (isRegular_of_isList h' hkind.symm) (sameText_list hitems))
  | false =>
    rw [hlist] at hkind
    rw [node?_of_not_isList hlist] at hnode
    rw [node?_of_not_isList hkind.symm] at hnode'
    obtain rfl := Option.some.inj hnode
    obtain rfl := Option.some.inj hnode'
    obtain ⟨⟨op, hop⟩, hpath, hleaf⟩ := isRegular_of_not_isList h hlist
    obtain ⟨⟨op', hop'⟩, hpath', hleaf'⟩ := isRegular_of_not_isList h' hkind.symm
    obtain ⟨hfield, rfl, hleaves⟩ := (flatShape_flatNode hop).agree (flatShape_flatNode hop')
      hpath hpath' hleaf hleaf' hsame
    exact .flat hlist hkind.symm hfield (by rw [canonical_eq hop, canonical_eq hop']) hleaves

end Condition

/-! ## Whole filters -/

variable {attributes attributes' : List Attribute}

/-- The survivors and their clauses, in order. -/
theorem forall₂_survivors_kept? (attributes : List Attribute) (filter : FilterSet) :
    List.Forall₂ (fun c clause => c.kept? attributes = some clause) (filter.survivors attributes)
      (filter.conditions.filterMap (Condition.kept? attributes)) := by
  unfold FilterSet.survivors
  induction filter.conditions with
  | nil => exact .nil
  | cons c rest ih =>
    rw [List.filter_cons, List.filterMap_cons]
    cases hkept : c.kept? attributes with
    | none => exact ih
    | some clause => exact .cons hkept ih

/-- The survivors and their nodes, in order. -/
theorem forall₂_survivors_node (attributes : List Attribute) (filter : FilterSet) :
    List.Forall₂ (fun c node => c.node? attributes = some node) (filter.survivors attributes)
      ((filter.conditions.filterMap (Condition.kept? attributes)).map Clause.node) :=
  List.forall₂_map_right_iff.mpr <|
    (forall₂_survivors_kept? attributes filter).imp fun _ _ hkept =>
      (Condition.clause?_eq_ok_some_iff.mp (Condition.kept?_eq_some_iff.mp hkept)).2.1

/-- Does the node have a single key, other than that of a logic? -/
def IsOwnNode (node : Value) : Prop :=
  ∃ key v, node = single key v ∧ ∀ logic : Logic, key ≠ logic.key

/-- **The nodes of a root can be told from its text**, and so can the logic if there are
several. -/
theorem sameText_rootNode {logic logic' : Logic} {nodes nodes' : List Value} (hne : nodes ≠ [])
    (hne' : nodes' ≠ []) (hown : ∀ node ∈ nodes, IsOwnNode node)
    (hown' : ∀ node ∈ nodes', IsOwnNode node)
    (hsame : SameText (rootNode logic nodes) (rootNode logic' nodes')) :
    List.Forall₂ SameText nodes nodes' ∧ (2 ≤ nodes.length → logic = logic') := by
  -- a single node does not have the key of a logic
  have hmixed : ∀ {node v : Value} {logic : Logic}, IsOwnNode node →
      ¬ SameText node (single logic.key v) := by
    rintro node v logic ⟨key, w, rfl, hkey⟩ hsame
    exact hkey logic (sameText_single hsame).1
  match nodes, nodes', hne, hne' with
  | [node], [node'], _, _ => exact ⟨.cons hsame .nil, fun htwo => absurd htwo (Nat.not_succ_le_self 1)⟩
  | [node], _ :: _ :: _, _, _ =>
    exact absurd hsame (hmixed (hown node List.mem_cons_self))
  | _ :: _ :: _, [node'], _, _ =>
    exact absurd hsame.symm (hmixed (hown' node' List.mem_cons_self))
  | a :: b :: rest, a' :: b' :: rest', _, _ =>
    obtain ⟨hlogic, hnodes⟩ := sameText_single hsame
    exact ⟨sameText_list hnodes, fun _ => logicKey_inj hlogic⟩

/-- The nodes of regular conditions are their own. -/
theorem isOwnNode_of_isRegular {conditions : List Condition} {nodes : List Value}
    (h : List.Forall₂ (fun c node => c.node? attributes = some node) conditions nodes)
    (hregular : ∀ c ∈ conditions, c.isRegular attributes = true) :
    ∀ node ∈ nodes, IsOwnNode node := by
  induction h with
  | nil => exact fun _ hmem => absurd hmem List.not_mem_nil
  | cons hnode _ ih =>
    obtain ⟨hc, hrest⟩ := List.forall_mem_cons.mp hregular
    obtain ⟨key, v, heq, hlogic, -⟩ := Condition.exists_node_key hc hnode
    exact List.forall_mem_cons.mpr ⟨⟨key, v, heq, hlogic⟩, ih hrest⟩

theorem forall₂_agrees_of_sameText {conditions conditions' : List Condition}
    {nodes nodes' : List Value}
    (h : List.Forall₂ (fun c node => c.node? attributes = some node) conditions nodes)
    (h' : List.Forall₂ (fun c node => c.node? attributes' = some node) conditions' nodes')
    (hregular : ∀ c ∈ conditions, c.isRegular attributes = true)
    (hregular' : ∀ c ∈ conditions', c.isRegular attributes' = true)
    (hsame : List.Forall₂ SameText nodes nodes') :
    List.Forall₂ (Condition.Agrees attributes attributes') conditions conditions' := by
  induction h generalizing conditions' nodes' with
  | nil =>
    cases hsame
    cases h'
    exact .nil
  | cons hnode _ ih =>
    cases hsame with
    | cons hsame hsames =>
      cases h' with
      | cons hnode' hnodes' =>
        obtain ⟨hc, hrest⟩ := List.forall_mem_cons.mp hregular
        obtain ⟨hc', hrest'⟩ := List.forall_mem_cons.mp hregular'
        exact .cons (Condition.agrees_of_sameText hc hc' hnode hnode' hsame)
          (ih hnodes' hrest hrest' hsames)

/-- **Compiled text is unambiguous.** Two regular filter sets with the same text, if that is
not empty, have as many surviving conditions, the same logic when there are several, and
position by position conditions of the same kind that agree in field, operator and leaf,
or in mode, field, logic and items. -/
theorem compileFilter_unambiguous {filter filter' : FilterSet}
    {compiled compiled' : CompiledFilter}
    (h : compileFilter attributes filter = .ok compiled)
    (h' : compileFilter attributes' filter' = .ok compiled')
    (hraw : compiled.raw = compiled'.raw) (hne : compiled.raw ≠ [])
    (hregular : filter.IsRegular attributes) (hregular' : filter'.IsRegular attributes') :
    (filter.survivors attributes).length = (filter'.survivors attributes').length ∧
      (2 ≤ (filter.survivors attributes).length → filter.logic = filter'.logic) ∧
      List.Forall₂ (Condition.Agrees attributes attributes') (filter.survivors attributes)
        (filter'.survivors attributes') := by
  obtain ⟨hkept, -, hcompact⟩ := node_of_compileFilter h hne
  obtain ⟨hkept', -, hcompact'⟩ := node_of_compileFilter h' (hraw ▸ hne)
  have hnodes := forall₂_survivors_node attributes filter
  have hnodes' := forall₂_survivors_node attributes' filter'
  obtain ⟨hsame, hlogic⟩ := sameText_rootNode (by simpa using hkept) (by simpa using hkept')
    (isOwnNode_of_isRegular hnodes hregular) (isOwnNode_of_isRegular hnodes' hregular')
    ⟨compiled.raw, hcompact, hraw ▸ hcompact'⟩
  have hagrees := forall₂_agrees_of_sameText hnodes hnodes' hregular hregular' hsame
  refine ⟨hagrees.length_eq, fun htwo => hlogic ?_, hagrees⟩
  rwa [← hnodes.length_eq]

/-- A flat condition and a list condition, and between them one that is left out. -/
def writtenFilter : FilterSet where
  conditions := [
    { field := "a.b", operator := some "ne", value := .int 1 },
    { field := "c", operator := some "eq" },
    { field := "o.l", fieldType := some .list,
      listConditions := some [{ field := "x", value := .bool true }] }]

/-- The same conditions as they are typed: other spellings, and texts for values. -/
def typedFilter : FilterSet where
  conditions := [
    { field := "a.b", operator := some " #ne", value := .text " 1", fieldType := some .integer },
    { field := "o.l", fieldType := some .list,
      listConditions := some [{ field := "y" }, { field := "x", value := .text "yes" }],
      schema := some [("x", .boolean)] }]

/-- The text of both. -/
def sharedText : Text :=
  "\x7b\"#and\":[\x7b\"#ne\":\x7b\"a\":\x7b\"b\":1\x7d\x7d\x7d," ++
    "\x7b\"#any\":\x7b\"o\\u0001l\":\x7b\"#and\":[\x7b\"x\":true\x7d]\x7d\x7d\x7d]\x7d"

theorem compileFilter_unambiguous_typed :
    ∃ compiled compiled', compileFilter [] writtenFilter = .ok compiled ∧
      compileFilter [] typedFilter = .ok compiled' ∧ compiled.raw = compiled'.raw ∧
      (writtenFilter.survivors []).length = (typedFilter.survivors []).length ∧
      List.Forall₂ (Condition.Agrees [] []) (writtenFilter.survivors [])
        (typedFilter.survivors []) := by
  have hwritten : (compileFilter [] writtenFilter).toOption.map CompiledFilter.raw =
      some sharedText := by
    decide +kernel
  have htyped : (compileFilter [] typedFilter).toOption.map CompiledFilter.raw =
      some sharedText := by
    decide +kernel
  have hregular : writtenFilter.IsRegular [] := by
    unfold FilterSet.IsRegular
    decide +kernel
  have hregular' : typedFilter.IsRegular [] := by
    unfold FilterSet.IsRegular
    decide +kernel
  obtain ⟨compiled, h, hraw⟩ := exists_of_map_toOption hwritten
  obtain ⟨compiled', h', hraw'⟩ := exists_of_map_toOption htyped
  have heq : compiled.raw = compiled'.raw := hraw.trans hraw'.symm
  have hne : compiled.raw ≠ [] := by
    rw [hraw]
    exact List.cons_ne_nil _ _
  obtain ⟨hlength, -, hagrees⟩ := compileFilter_unambiguous h h' heq hne hregular hregular'
  exact ⟨compiled, compiled', h, h', heq, hlength, hagrees⟩

end ProfileFilter
