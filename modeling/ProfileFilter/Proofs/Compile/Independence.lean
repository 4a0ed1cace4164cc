import ProfileFilter.Proofs.Compile.Clauses
import Mathlib.Data.List.Forall2

/-!
# Conditions compile independently

The result of a filter set is put together from the results its conditions have on their
own. `alone?` is such a result, and `IsJoin` says, without the compiler, how results on
their own make up the result of the whole: nothing, the only one, or the nodes in order
under the key of the logic with the explanations joined by its word.

Main statement: `compileFilter_isJoin`. A condition that comes to nothing on its own can
be taken out anywhere, and no condition has an influence on another one's part.
-/

namespace ProfileFilter

open Json

/-- What a condition compiles to on its own, unless that is empty. -/
def alone? (attributes : List Attribute) (logic : Logic) (c : Condition) :
    Option CompiledFilter :=
  match compileFilter attributes { conditions := [c], logic } with
  | .ok compiled => if compiled.isEmpty then none else some compiled
  | .error _ => none

/-- The result `whole` is made up of the results `parts`, in their order. -/
structure IsJoin (logic : Logic) (parts : List CompiledFilter) (whole : CompiledFilter) :
    Prop where
  /-- as many conditions as there are parts -/
  count : whole.conditionCount = parts.length
  /-- no part: everything is empty -/
  empty : parts = [] → whole = {}
  /-- one part stands for itself -/
  one : ∀ part, parts = [part] → whole = part
  /-- several parts: their nodes under the key of the logic, and the text of that -/
  several : 2 ≤ parts.length → ∃ nodes : List Value,
    parts.map CompiledFilter.node = nodes.map some ∧
      whole.node = some (single logic.key (.list nodes)) ∧
      serializeFilter (single logic.key (.list nodes)) = .ok whole.raw ∧
      Percent.encode? whole.raw = some whole.encoded ∧
      whole.explanation = Text.join logic.separator (parts.map CompiledFilter.explanation)

variable {attributes : List Attribute} {logic : Logic}

/-! ## One condition -/

theorem compileFilter_one_eq_ok_iff {c : Condition} {part : CompiledFilter} :
    compileFilter attributes { conditions := [c], logic } = .ok part ↔
      ∃ clause, c.clause? attributes = .ok clause ∧ assemble logic clause.toList = .ok part := by
  rw [compileFilter_eq_ok_iff, List.forall_mem_singleton]
  constructor
  · rintro ⟨⟨clause, hclause⟩, hassemble⟩
    refine ⟨clause, hclause, ?_⟩
    rw [← hassemble, List.filterMap_cons, Condition.kept?, hclause]
    cases clause <;> rfl
  · rintro ⟨clause, hclause, hassemble⟩
    refine ⟨⟨clause, hclause⟩, ?_⟩
    rw [← hassemble, List.filterMap_cons, Condition.kept?, hclause]
    cases clause <;> rfl

/-- The result of one clause: its node, its text and its explanation. -/
theorem assemble_singleton_eq_ok {clause : Clause} {part : CompiledFilter}
    (hclause : clause.IsSendable) (h : assemble logic [clause] = .ok part) :
    part.node = some clause.node ∧ part.explanation = clause.explanation ∧
      part.isEmpty = false := by
  obtain ⟨raw, -, -, hne, hassemble⟩ := assemble_of_isSendable logic (List.cons_ne_nil clause [])
    (List.forall_mem_singleton.mpr hclause)
  rw [hassemble] at h
  obtain rfl := Except.ok.inj h
  exact ⟨rfl, rfl, by simpa [CompiledFilter.isEmpty] using hne⟩

/-- A condition has a result of its own exactly if it is kept. -/
theorem alone?_eq_some_iff {c : Condition} {part : CompiledFilter} :
    alone? attributes logic c = some part ↔
      ∃ clause, c.kept? attributes = some clause ∧ assemble logic [clause] = .ok part := by
  simp only [Condition.kept?_eq_some_iff]
  unfold alone?
  constructor
  · intro h
    split at h
    · next compiled hcompiled =>
      split_ifs at h with hempty
      obtain rfl := Option.some.inj h
      obtain ⟨clause, hclause, hassemble⟩ := compileFilter_one_eq_ok_iff.mp hcompiled
      cases clause with
      | none =>
        obtain rfl := Except.ok.inj hassemble
        exact absurd rfl hempty
      | some clause => exact ⟨clause, hclause, hassemble⟩
    · cases h
  · rintro ⟨clause, hclause, hassemble⟩
    obtain ⟨-, -, hne⟩ :=
      assemble_singleton_eq_ok (Condition.isSendable_of_clause? hclause) hassemble
    rw [compileFilter_one_eq_ok_iff.mpr ⟨some clause, hclause, hassemble⟩]
    simp only [hne, Bool.false_eq_true, if_false]

theorem kept?_eq_none_of_alone? {c : Condition} (h : alone? attributes logic c = none) :
    c.kept? attributes = none := by
  rw [Option.eq_none_iff_forall_ne_some]
  intro clause hclause
  obtain ⟨raw, -, -, -, hassemble⟩ := assemble_of_isSendable logic (List.cons_ne_nil clause [])
    (List.forall_mem_singleton.mpr
      (Condition.isSendable_of_clause? (Condition.kept?_eq_some_iff.mp hclause)))
  rw [alone?_eq_some_iff.mpr ⟨clause, hclause, hassemble⟩] at h
  cases h

/-! ## All conditions -/

/-- The results on their own are the results of the kept clauses, one by one. -/
theorem forall₂_kept_alone (conditions : List Condition) :
    List.Forall₂ (fun clause part => clause.IsSendable ∧ assemble logic [clause] = .ok part)
      (conditions.filterMap (Condition.kept? attributes))
      (conditions.filterMap (alone? attributes logic)) := by
  induction conditions with
  | nil => exact .nil
  | cons c rest ih =>
    rw [List.filterMap_cons, List.filterMap_cons]
    cases halone : alone? attributes logic c with
    | none =>
      rw [kept?_eq_none_of_alone? halone]
      exact ih
    | some part =>
      obtain ⟨clause, hclause, hassemble⟩ := alone?_eq_some_iff.mp halone
      rw [hclause]
      exact .cons ⟨Condition.isSendable_of_clause? (Condition.kept?_eq_some_iff.mp hclause),
        hassemble⟩ ih

/-- Nodes and explanations of the parts are those of the clauses, which can all be sent. -/
theorem fields_of_forall₂ {found : List Clause} {parts : List CompiledFilter}
    (h : List.Forall₂ (fun clause part => clause.IsSendable ∧ assemble logic [clause] = .ok part)
      found parts) :
    (∀ clause ∈ found, clause.IsSendable) ∧
      parts.map CompiledFilter.node = (found.map Clause.node).map some ∧
      parts.map CompiledFilter.explanation = found.map Clause.explanation := by
  induction h with
  | nil => exact ⟨fun _ hmem => absurd hmem List.not_mem_nil, rfl, rfl⟩
  | cons hpart _ ih =>
    obtain ⟨hsend, hnodes, hexpls⟩ := ih
    obtain ⟨hnode, hexpl, -⟩ := assemble_singleton_eq_ok hpart.1 hpart.2
    refine ⟨List.forall_mem_cons.mpr ⟨hpart.1, hsend⟩, ?_, ?_⟩
    · rw [List.map_cons, hnode, hnodes, List.map_cons, List.map_cons]
    · rw [List.map_cons, hexpl, hexpls, List.map_cons]

/-- What is assembled from clauses is the join of what each of them gives on its own. -/
theorem isJoin_of_assemble {found : List Clause} {parts : List CompiledFilter}
    {whole : CompiledFilter}
    (h : List.Forall₂ (fun clause part => clause.IsSendable ∧ assemble logic [clause] = .ok part)
      found parts)
    (hwhole : assemble logic found = .ok whole) : IsJoin logic parts whole := by
  have hlength := h.length_eq
  obtain ⟨hsendable, hnodes, hexpl⟩ := fields_of_forall₂ h
  cases found with
  | nil =>
    obtain rfl := Except.ok.inj hwhole
    obtain rfl := List.forall₂_nil_left_iff.mp h
    refine ⟨rfl, fun _ => rfl, fun part hpart => ?_, fun htwo => ?_⟩
    · cases hpart
    · exact absurd htwo (by decide)
  | cons clause rest =>
    obtain ⟨raw, hraw, henc, -, hassemble⟩ :=
      assemble_of_isSendable logic (List.cons_ne_nil clause rest) hsendable
    rw [hassemble] at hwhole
    obtain rfl := Except.ok.inj hwhole
    refine ⟨hlength, ?_, ?_, ?_⟩
    · rintro rfl
      cases hlength
    · rintro part rfl
      obtain rfl : rest = [] := List.eq_nil_of_length_eq_zero (Nat.succ.inj hlength)
      obtain ⟨-, hpart⟩ := (List.forall₂_cons.mp h).1
      rw [hassemble] at hpart
      exact Except.ok.inj hpart
    · -- two parts or more: the root is built from the nodes that the parts have
      intro htwo
      refine ⟨(clause :: rest).map Clause.node, hnodes, ?_⟩
      rw [← hlength] at htwo
      obtain ⟨next, others, rfl⟩ : ∃ next others, rest = next :: others :=
        List.exists_cons_of_length_pos (Nat.le_of_succ_le_succ htwo)
      refine ⟨rfl, hraw, ?_, by rw [hexpl]⟩
      rw [Percent.encode?, henc, if_pos rfl]

/-- **Conditions compile independently.** Whenever a filter set compiles, each of its
conditions compiles on its own, the whole is the join of the results that are not empty,
and taking a condition without a result out of the set, wherever it stands, changes
nothing at all. -/
theorem compileFilter_isJoin {filter : FilterSet} {whole : CompiledFilter}
    (h : compileFilter attributes filter = .ok whole) :
    IsJoin filter.logic (filter.conditions.filterMap (alone? attributes filter.logic)) whole ∧
      (∀ c ∈ filter.conditions, ∃ part,
        compileFilter attributes { conditions := [c], logic := filter.logic } = .ok part) ∧
      ∀ before c after, filter.conditions = before ++ c :: after →
        alone? attributes filter.logic c = none →
          compileFilter attributes { conditions := before ++ after, logic := filter.logic } =
            .ok whole := by
  obtain ⟨hall, hassemble⟩ := compileFilter_eq_ok_iff.mp h
  refine ⟨isJoin_of_assemble (forall₂_kept_alone filter.conditions) hassemble, ?_, ?_⟩
  · intro c hc
    obtain ⟨clause, hclause⟩ := hall c hc
    have hsend : ∀ k ∈ clause.toList, k.IsSendable := by
      intro k hk
      obtain rfl := Option.mem_toList.mp hk
      exact Condition.isSendable_of_clause? hclause
    rcases eq_or_ne clause.toList [] with hnil | hne
    · exact ⟨{}, compileFilter_one_eq_ok_iff.mpr ⟨clause, hclause, by rw [hnil]; rfl⟩⟩
    · obtain ⟨raw, -, -, -, hpart⟩ := assemble_of_isSendable filter.logic hne hsend
      exact ⟨_, compileFilter_one_eq_ok_iff.mpr ⟨clause, hclause, hpart⟩⟩
  · intro before c after hsplit halone
    rw [hsplit] at hall hassemble
    refine compileFilter_eq_ok_iff.mpr ⟨fun d hd => hall d ?_, ?_⟩
    · rcases List.mem_append.mp hd with hd | hd
      · exact List.mem_append_left _ hd
      · exact List.mem_append_right _ (List.mem_cons_of_mem _ hd)
    · rw [← hassemble, List.filterMap_append, List.filterMap_append, List.filterMap_cons,
        kept?_eq_none_of_alone? halone]

/-- Three conditions, of which the second has no value and is left out. -/
def incompleteFilter : FilterSet where
  conditions := [
    { field := "a", operator := some "eq", value := .int 1 },
    { field := "b", operator := some "eq" },
    { field := "c", operator := some "exists" }]
  logic := .or

theorem compileFilter_isJoin_incomplete :
    ∃ whole, compileFilter [] incompleteFilter = .ok whole ∧ whole.conditionCount = 2 ∧
      IsJoin .or (incompleteFilter.conditions.filterMap (alone? [] .or)) whole := by
  have hcount : (compileFilter [] incompleteFilter).toOption.map CompiledFilter.conditionCount =
      some 2 := by
    decide +kernel
  obtain ⟨whole, h, htwo⟩ := exists_of_map_toOption hcount
  exact ⟨whole, h, htwo, (compileFilter_isJoin h).1⟩

end ProfileFilter
