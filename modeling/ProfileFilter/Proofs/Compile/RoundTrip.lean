import ProfileFilter.Proofs.Compile.Hereditary
import ProfileFilter.Proofs.Json.Clean
import ProfileFilter.Proofs.Json.Reading

/-!
# Compiled text reads back as the filter document

When the values entered in a filter set are plain, so is its document: coercion turns
texts into numbers and truth values at most, and the builders put values under text keys,
one to a mapping. The compact text of a plain value is strict JSON that the reader takes
for that value, so compiled text reads back as the document it was made from.

Main statement: `compileFilter_round_trip`.
-/

namespace ProfileFilter

open Json

/-! ## Nodes of plain values are plain -/

namespace Value

theorem areItemsPlain_iff {items : List Value} :
    areItemsPlain items = true ↔ ∀ v ∈ items, v.isPlain = true := by
  induction items with
  | nil => simp [areItemsPlain]
  | cons v rest ih => rw [areItemsPlain, Bool.and_eq_true, ih, List.forall_mem_cons]

/-- **Being plain is hereditary**: coercion makes plain values, and the builders put values
under text keys, one to a mapping. -/
theorem isHereditary_isPlain : IsHereditary fun v => v.isPlain = true where
  text _ := rfl
  int _ := rfl
  float _ := rfl
  bool _ := rfl
  list := by
    intro items
    rw [isPlain, areItemsPlain_iff]
  tuple := areItemsPlain_iff.mp
  single key v hv := isPlain_mapping.mpr ⟨List.nodup_singleton _,
    areEntriesPlain_cons.mpr ⟨⟨key, rfl⟩, hv, rfl⟩⟩

end Value

/-- Are the value and the values of the items plain? -/
def Condition.IsPlain (c : Condition) : Prop :=
  c.value.isPlain = true ∧ ∀ item ∈ c.items, item.value.isPlain = true

/-- Are all values entered in the filter set plain? -/
def FilterSet.IsPlain (filter : FilterSet) : Prop := ∀ c ∈ filter.conditions, c.IsPlain

/-! ## Compiled filters -/

variable {attributes : List Attribute} {filter : FilterSet} {compiled : CompiledFilter}

/-- The document of plain values is plain. -/
theorem FilterSet.isPlain_document (attributes : List Attribute) (h : filter.IsPlain) :
    (filter.document attributes).isPlain = true := by
  refine Value.isHereditary_isPlain.rootNode fun node hnode => ?_
  obtain ⟨clause, hclause, rfl⟩ := List.mem_map.mp hnode
  obtain ⟨c, hc, hkept⟩ := List.mem_filterMap.mp hclause
  obtain ⟨-, hnode, -⟩ := Condition.clause?_eq_ok_some_iff.mp (Condition.kept?_eq_some_iff.mp hkept)
  exact Value.isHereditary_isPlain.node? (h c hc) hnode

/-- The text of a filter of plain values denotes its document, with distinct keys. -/
theorem exists_denotes_raw (h : compileFilter attributes filter = .ok compiled)
    (hraw : compiled.raw ≠ []) (hplain : filter.IsPlain) :
    ∃ node v, compiled.node = some node ∧ compact node = .ok compiled.raw ∧
      Denotes .distinct compiled.raw v ∧ node.Same v := by
  obtain ⟨-, hnode, hcompact⟩ := node_of_compileFilter h hraw
  have hroot := FilterSet.isPlain_document attributes hplain
  obtain ⟨v, hv, hsame⟩ := exists_denotes .distinct hcompact (.inr hroot)
  exact ⟨_, v, hnode, hcompact, hv, hsame hroot⟩

/-- **Compiled text reads back as the filter document.** If all values are plain, the text
of a filter that is not empty is strict JSON with distinct keys; no control character
stands in it, the list separator in particular; the reader gives back the document; and
no other document of plain values has the same text. -/
theorem compileFilter_round_trip (h : compileFilter attributes filter = .ok compiled)
    (hraw : compiled.raw ≠ []) (hplain : filter.IsPlain) :
    ∃ node v, compiled.node = some node ∧ Denotes .distinct compiled.raw v ∧
      (∀ c ∈ compiled.raw, 0x20 ≤ c.val) ∧ listSeparator ∉ compiled.raw ∧
      parse compiled.raw = .ok v ∧ node.Same v ∧
      ∀ attributes' filter' compiled' node',
        compileFilter attributes' filter' = .ok compiled' → filter'.IsPlain →
        compiled'.node = some node' → compiled'.raw = compiled.raw → node'.Same node := by
  obtain ⟨node, v, hnode, hcompact, hdenotes, hsame⟩ := exists_denotes_raw h hraw hplain
  have hclean : IsClean compiled.raw := isClean_of_compactWith hcompact
  have hparse := parse_of_denotes hdenotes
  refine ⟨node, v, hnode, hdenotes, hclean, fun hmem => ?_, hparse, hsame, ?_⟩
  · exact absurd (hclean _ hmem) (by decide)
  · intro attributes' filter' compiled' node' h' hplain' hnode' heq
    obtain ⟨node'', v', hnode'', -, hdenotes', hsame'⟩ :=
      exists_denotes_raw h' (heq ▸ hraw) hplain'
    rw [hnode'] at hnode''
    obtain rfl := Option.some.inj hnode''
    -- one text reads back as one value, and both documents are the same as that
    rw [heq] at hdenotes'
    have hparse' := parse_of_denotes hdenotes'
    rw [hparse] at hparse'
    obtain rfl := Except.ok.inj hparse'
    exact hsame'.of_same hsame

/-- A condition with a value that nests a text, a fixed sequence, a mapping and a float. -/
def nestedFilter : FilterSet where
  conditions := [{
    field := "note.text"
    operator := some "ne"
    value := .list [.text "\"\n", .tuple [.null, .int (-7)],
      .mapping [(.text "k", .float (.finite true 0x18000000000000 (-52)))]] }]

theorem compileFilter_round_trip_nested :
    ∃ compiled node v, compileFilter [] nestedFilter = .ok compiled ∧
      compiled.node = some node ∧ parse compiled.raw = .ok v ∧ node.Same v := by
  have htext : (compileFilter [] nestedFilter).toOption.map CompiledFilter.raw = some
      "\x7b\"#ne\":\x7b\"note\":\x7b\"text\":[\"\\\"\\n\",[null,-7],\x7b\"k\":-1.5\x7d]\x7d\x7d\x7d" := by
    decide +kernel
  obtain ⟨compiled, h, hraw⟩ := exists_of_map_toOption htext
  have hne : compiled.raw ≠ [] := by
    rw [hraw]
    exact List.cons_ne_nil _ _
  have hplain : nestedFilter.IsPlain := List.forall_mem_singleton.mpr ⟨by decide, by decide⟩
  obtain ⟨node, v, hnode, -, -, -, hparse, hsame, -⟩ := compileFilter_round_trip h hne hplain
  exact ⟨compiled, node, v, h, hnode, hparse, hsame⟩

end ProfileFilter
