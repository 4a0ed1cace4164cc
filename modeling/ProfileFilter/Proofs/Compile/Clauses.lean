import ProfileFilter.Proofs.Json.Compact

/-!
# Clauses and the document they become

What one condition contributes to a filter, and what becomes of the contributions. Two
facts carry every later statement about whole filters:

* a clause that was kept is **sendable**: its node has a single entry, and its compact
  text exists and is encodable (`Condition.isSendable_of_clause?`);
* sendable clauses always assemble: the text of the root exists, is encodable and is not
  empty (`assemble_of_isSendable`).

So a compilation can stop only at a condition, never at the root.
-/

namespace ProfileFilter

open Json

/-! ## Nodes have a single entry -/

theorem exists_nestPath_eq_single (path : Text) (leaf : Value) :
    ∃ key v, nestPath path leaf = single key v := by
  obtain ⟨segment, segments, h⟩ := List.exists_cons_of_ne_nil (path.splitOn_ne_nil '.')
  exact ⟨segment, nestSegments segments leaf, by rw [nestPath, h]; rfl⟩

theorem exists_nestFieldPath_eq_single (path : Text) (leaf : Value) (operator : Option Text)
    (invert : Bool) : ∃ key v, nestFieldPath path leaf operator invert = single key v := by
  cases invert with
  | true => exact exists_nestPath_eq_single path _
  | false =>
    cases operator with
    | none => exact exists_nestPath_eq_single path leaf
    | some op => exact ⟨op, nestPath path leaf, rfl⟩

namespace Condition

variable {attributes : List Attribute} {c : Condition}

theorem exists_flatNode_eq_single : ∃ key v, c.flatNode attributes = single key v := by
  simp only [flatNode]
  split_ifs
  · exact exists_nestFieldPath_eq_single ..
  · exact exists_nestFieldPath_eq_single ..
  · exact exists_nestFieldPath_eq_single ..
  · exact exists_nestPath_eq_single ..
  · exact exists_nestFieldPath_eq_single ..

/-- The node of a list condition: nothing without a complete item, else the nodes of the complete
items under the logic, the field and the mode. -/
theorem listNode?_eq_ite (attributes : List Attribute) (c : Condition) :
    c.listNode? attributes = if c.completeItems.isEmpty then none
      else some (single c.listMode.key (single (listFieldName c.field) (single c.listLogic.key
        (.list (c.completeItems.map (ItemCondition.node (c.resolvedSchema attributes))))))) := by
  unfold listNode?
  split
  · next hnone =>
    rw [hnone]
    rfl
  · next item items hitems =>
    rw [hitems]
    rfl

/-- The node of a list condition, from the outside in. -/
theorem listNode?_eq {node : Value} (h : c.listNode? attributes = some node) :
    node = single c.listMode.key (single (listFieldName c.field) (single c.listLogic.key
      (.list (c.completeItems.map (ItemCondition.node (c.resolvedSchema attributes)))))) := by
  rw [listNode?_eq_ite] at h
  split_ifs at h
  exact (Option.some.inj h).symm

/-- **Every node has a single entry**, so no node is ever taken for an empty document. -/
theorem exists_node?_eq_single {node : Value} (h : c.node? attributes = some node) :
    ∃ key v, node = single key v := by
  unfold node? at h
  split_ifs at h
  · exact ⟨_, _, listNode?_eq h⟩
  · rw [← Option.some.inj h]
    exact exists_flatNode_eq_single

end Condition

/-! ## Sendable clauses -/

theorem serializeFilter_single (key : Text) (v : Value) :
    serializeFilter (single key v) = compact (single key v) := rfl

/-- A clause whose node has a single entry and an encodable text. -/
structure Clause.IsSendable (clause : Clause) : Prop where
  /-- the node has a single entry -/
  single : ∃ key v, clause.node = single key v
  /-- the node has a text that can be encoded -/
  text : ∃ s, compact clause.node = .ok s ∧ s.isEncodable = true

/-- A node that can be sent has an encodable text. -/
theorem isSendable_single_eq_ok_true {key : Text} {v : Value} :
    isSendable (single key v) = .ok true ↔
      ∃ s, compact (single key v) = .ok s ∧ s.isEncodable = true := by
  unfold isSendable
  rw [serializeFilter_single]
  split <;> simp_all

namespace Condition

variable {attributes : List Attribute} {c : Condition} {clause : Clause}

/-- What it takes for a condition to be kept. -/
theorem clause?_eq_ok_some_iff :
    c.clause? attributes = .ok (some clause) ↔
      c.isComplete attributes = true ∧ c.node? attributes = some clause.node ∧
        clause.IsSendable ∧ clause.explanation = c.explanation attributes := by
  unfold clause?
  constructor
  · intro h
    split_ifs at h with hcomplete
    · split at h
      · cases h
      · next node hnode =>
        obtain ⟨sendable, hsend, h⟩ := bind_eq_ok.mp h
        split_ifs at h with hs
        · obtain ⟨key, v, rfl⟩ := exists_node?_eq_single hnode
          subst hs
          cases h
          exact ⟨hcomplete, hnode, ⟨⟨key, v, rfl⟩, isSendable_single_eq_ok_true.mp hsend⟩, rfl⟩
        · cases h
    · cases h
  · rintro ⟨hcomplete, hnode, hsend, hexpl⟩
    obtain ⟨key, v, hkv⟩ := hsend.single
    have hok : isSendable clause.node = .ok true := by
      rw [hkv]
      exact isSendable_single_eq_ok_true.mpr (hkv ▸ hsend.text)
    rw [if_pos hcomplete, hnode]
    simp only [hok, ← hexpl]
    rfl

theorem isSendable_of_clause? (h : c.clause? attributes = .ok (some clause)) :
    clause.IsSendable := (clause?_eq_ok_some_iff.mp h).2.2.1

/-- The clause of a condition, whatever stops the compilation counted as dropped. -/
def kept? (attributes : List Attribute) (c : Condition) : Option Clause :=
  match c.clause? attributes with
  | .ok found => found
  | .error _ => none

theorem kept?_eq_some_iff :
    c.kept? attributes = some clause ↔ c.clause? attributes = .ok (some clause) := by
  unfold kept?
  split <;> simp_all

end Condition

/-! ## The clauses of several conditions -/

/-- **The clauses are found one by one**: each condition succeeds on its own, and the
clauses are those of the conditions that were kept, in order. -/
theorem clauses_eq_ok_iff {attributes : List Attribute} {conditions : List Condition}
    {found : List Clause} :
    clauses attributes conditions = .ok found ↔
      (∀ c ∈ conditions, ∃ clause, c.clause? attributes = .ok clause) ∧
        found = conditions.filterMap (Condition.kept? attributes) := by
  induction conditions generalizing found with
  | nil => simp [clauses, eq_comm]
  | cons c rest ih =>
    simp only [clauses, bind_eq_ok, pure_eq_ok]
    constructor
    · rintro ⟨first, hfirst, others, hothers, rfl⟩
      obtain ⟨hrest, rfl⟩ := ih.mp hothers
      refine ⟨List.forall_mem_cons.mpr ⟨⟨first, hfirst⟩, hrest⟩, ?_⟩
      have hkept : c.kept? attributes = first := by rw [Condition.kept?, hfirst]
      rw [List.filterMap_cons, hkept]
      cases first <;> rfl
    · rintro ⟨hall, rfl⟩
      obtain ⟨⟨first, hfirst⟩, hrest⟩ := List.forall_mem_cons.mp hall
      refine ⟨first, hfirst, _, ih.mpr ⟨hrest, rfl⟩, ?_⟩
      have hkept : c.kept? attributes = first := by rw [Condition.kept?, hfirst]
      rw [List.filterMap_cons, hkept]
      cases first <;> rfl

theorem isSendable_of_mem_kept {attributes : List Attribute} {conditions : List Condition}
    {clause : Clause} (h : clause ∈ conditions.filterMap (Condition.kept? attributes)) :
    clause.IsSendable := by
  obtain ⟨c, -, hc⟩ := List.mem_filterMap.mp h
  exact Condition.isSendable_of_clause? (Condition.kept?_eq_some_iff.mp hc)

/-! ## Assembling -/

/-- Sendable nodes have a text as a list. -/
theorem exists_compact_list {found : List Clause} (h : ∀ clause ∈ found, clause.IsSendable) :
    ∃ s, compact (.list (found.map Clause.node)) = .ok s ∧ s.isEncodable = true := by
  suffices hitems : ∃ texts, compactItems .strict (found.map Clause.node) = .ok texts ∧
      texts.all Text.isEncodable = true by
    obtain ⟨texts, htexts, henc⟩ := hitems
    refine ⟨_, compactWith_list_eq_ok.mpr ⟨texts, htexts, rfl⟩, ?_⟩
    rw [Text.isEncodable_cons, Text.isEncodable_append, Text.isEncodable_join rfl, henc]
    rfl
  induction found with
  | nil => exact ⟨[], rfl, rfl⟩
  | cons clause rest ih =>
    obtain ⟨hclause, hrest⟩ := List.forall_mem_cons.mp h
    obtain ⟨s, hs, hsenc⟩ := hclause.text
    obtain ⟨texts, htexts, henc⟩ := ih hrest
    refine ⟨s :: texts, compactItems_cons_eq_ok.mpr ⟨s, texts, hs, htexts, rfl⟩, ?_⟩
    rw [List.all_cons, hsenc, henc]
    rfl

/-- The root of sendable clauses has a single entry and an encodable text. -/
theorem exists_compact_rootNode (logic : Logic) {found : List Clause} (hne : found ≠ [])
    (h : ∀ clause ∈ found, clause.IsSendable) :
    (∃ key v, rootNode logic (found.map Clause.node) = single key v) ∧
      ∃ s, compact (rootNode logic (found.map Clause.node)) = .ok s ∧ s.isEncodable = true := by
  match found, hne with
  | [clause], _ => exact ⟨(h clause (List.mem_singleton_self _)).single,
      (h clause (List.mem_singleton_self _)).text⟩
  | a :: b :: rest, _ =>
    obtain ⟨s, hs, henc⟩ := exists_compact_list h
    refine ⟨⟨logic.key, .list ((a :: b :: rest).map Clause.node), rfl⟩, _,
      compactWith_single_eq_ok.mpr ⟨s, hs, rfl⟩, ?_⟩
    simp only [Text.isEncodable_cons, Text.isEncodable_append, henc]
    cases logic <;> rfl

/-- **Sendable clauses assemble**, into a filter whose text is encodable and not empty. -/
theorem assemble_of_isSendable (logic : Logic) {found : List Clause} (hne : found ≠ [])
    (h : ∀ clause ∈ found, clause.IsSendable) :
    ∃ raw, compact (rootNode logic (found.map Clause.node)) = .ok raw ∧
      raw.isEncodable = true ∧ raw ≠ [] ∧
      assemble logic found = .ok {
        raw
        encoded := Percent.encode raw
        node := some (rootNode logic (found.map Clause.node))
        conditionCount := found.length
        explanation := Text.join logic.separator (found.map Clause.explanation) } := by
  obtain ⟨⟨key, v, hroot⟩, raw, hraw, henc⟩ := exists_compact_rootNode logic hne h
  refine ⟨raw, hraw, henc, ?_, ?_⟩
  · rw [hroot] at hraw
    obtain ⟨value, -, rfl⟩ := compactWith_single_eq_ok.mp hraw
    exact List.cons_ne_nil _ _
  · have hser : serializeFilter (rootNode logic (found.map Clause.node)) = .ok raw := by
      rw [hroot, serializeFilter_single, ← hroot, hraw]
    rw [assemble, if_neg (by simpa using hne)]
    simp only [hser]
    rfl

/-! ## Compiling -/

theorem compileFilter_eq_ok_iff {attributes : List Attribute} {filter : FilterSet}
    {compiled : CompiledFilter} :
    compileFilter attributes filter = .ok compiled ↔
      (∀ c ∈ filter.conditions, ∃ clause, c.clause? attributes = .ok clause) ∧
        assemble filter.logic (filter.conditions.filterMap (Condition.kept? attributes)) =
          .ok compiled := by
  simp only [compileFilter, bind_eq_ok, clauses_eq_ok_iff]
  constructor
  · rintro ⟨found, ⟨hall, rfl⟩, hassemble⟩
    exact ⟨hall, hassemble⟩
  · rintro ⟨hall, hassemble⟩
    exact ⟨_, ⟨hall, rfl⟩, hassemble⟩

/-- The document of the clauses that were kept. -/
def FilterSet.document (attributes : List Attribute) (filter : FilterSet) : Value :=
  rootNode filter.logic
    ((filter.conditions.filterMap (Condition.kept? attributes)).map Clause.node)

/-- What a filter that is not empty consists of: its document, and the text of that. -/
theorem node_of_compileFilter {attributes : List Attribute} {filter : FilterSet}
    {compiled : CompiledFilter} (h : compileFilter attributes filter = .ok compiled)
    (hraw : compiled.raw ≠ []) :
    filter.conditions.filterMap (Condition.kept? attributes) ≠ [] ∧
      compiled.node = some (filter.document attributes) ∧
      compact (filter.document attributes) = .ok compiled.raw := by
  obtain ⟨-, hassemble⟩ := compileFilter_eq_ok_iff.mp h
  rcases eq_or_ne (filter.conditions.filterMap (Condition.kept? attributes)) [] with hnil | hne
  · rw [hnil] at hassemble
    obtain rfl := Except.ok.inj hassemble
    exact absurd rfl hraw
  · obtain ⟨raw, hcompact, -, -, heq⟩ :=
      assemble_of_isSendable filter.logic hne fun _ => isSendable_of_mem_kept
    rw [heq] at hassemble
    obtain rfl := Except.ok.inj hassemble
    exact ⟨hne, rfl, hcompact⟩

/-- The explanation of a filter joins those of its clauses. -/
theorem explanation_of_compileFilter {attributes : List Attribute} {filter : FilterSet}
    {compiled : CompiledFilter} (h : compileFilter attributes filter = .ok compiled) :
    compiled.explanation = Text.join filter.logic.separator
      ((filter.conditions.filterMap (Condition.kept? attributes)).map Clause.explanation) := by
  obtain ⟨-, hassemble⟩ := compileFilter_eq_ok_iff.mp h
  rcases eq_or_ne (filter.conditions.filterMap (Condition.kept? attributes)) [] with hnil | hne
  · rw [hnil] at hassemble ⊢
    obtain rfl := Except.ok.inj hassemble
    rfl
  · obtain ⟨raw, -, -, -, heq⟩ :=
      assemble_of_isSendable filter.logic hne fun _ => isSendable_of_mem_kept
    rw [heq] at hassemble
    obtain rfl := Except.ok.inj hassemble
    rfl

end ProfileFilter
