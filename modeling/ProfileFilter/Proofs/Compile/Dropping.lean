import ProfileFilter.Proofs.Compile.Told
import ProfileFilter.Proofs.Json.Keys

/-!
# What is dropped, and what stops a compilation

A condition whose node has no text, or one that cannot be encoded, is dropped, and dropping
it costs the other conditions nothing: the filter is the one they have without it. The one
way to stop a whole compilation is a complete condition with a key that JSON has no form for
at some depth of its value, a day for instance; it is not dropped but **refused**.

Whether a condition is sent or refused can be read off its own node (`Condition.isSent`,
`Condition.isRefused`), so both are known without compiling anything.

Main statement: `compileFilter_drops`.
-/

namespace ProfileFilter

open Json

/-! ## Sent and refused conditions -/

namespace Condition

/-- Is the condition sent: complete, with a node that has a text that can be encoded? -/
def isSent (attributes : List Attribute) (c : Condition) : Bool :=
  c.isComplete attributes && (c.node? attributes).any fun node =>
    match compact node with
    | .ok s => s.isEncodable
    | .error _ => false

/-- Is the condition refused: complete, with a node that has a key JSON has no form for? -/
def isRefused (attributes : List Attribute) (c : Condition) : Bool :=
  c.isComplete attributes && (c.node? attributes).any fun node =>
    match compact node with
    | .error .key => true
    | _ => false

variable {attributes : List Attribute} {c : Condition}

theorem isSent_iff : c.isSent attributes = true ↔ c.isComplete attributes = true ∧
    ∃ node s, c.node? attributes = some node ∧ compact node = .ok s ∧ s.isEncodable = true := by
  rw [isSent, Bool.and_eq_true, Option.any_eq_true]
  refine and_congr_right fun _ => exists_congr fun node => ?_
  split
  · next s hs => simp [hs]
  · next e he => simp [he]

theorem isRefused_iff : c.isRefused attributes = true ↔ c.isComplete attributes = true ∧
    ∃ node, c.node? attributes = some node ∧ compact node = .error .key := by
  rw [isRefused, Bool.and_eq_true, Option.any_eq_true]
  refine and_congr_right fun _ => exists_congr fun node => and_congr_right fun _ => ?_
  cases hcompact : compact node with
  | ok s => simp
  | error e => cases e <;> simp

/-- **No condition is refused if JSON has a form for all keys** in its values. -/
theorem isRefused_eq_false (h : c.ValuesHave fun v => v.hasJsonKeys = true) :
    c.isRefused attributes = false := by
  rw [← Bool.not_eq_true, isRefused_iff]
  rintro ⟨-, node, hnode, herror⟩
  exact compactWith_ne_error_key (Value.isHereditary_hasJsonKeys.node? h hnode) herror

theorem isSendable_single_eq_error_iff {key : Text} {v : Value} {e : Unprintable} :
    isSendable (single key v) = .error e ↔ e = .key ∧ compact (single key v) = .error .key := by
  unfold isSendable
  rw [serializeFilter_single]
  cases hcompact : compact (single key v) with
  | ok s => simp
  | error e' => cases e' <;> simp [eq_comm]

/-- A condition stops a compilation exactly if it is refused. -/
theorem clause?_eq_error_iff {e : Unprintable} :
    c.clause? attributes = .error e ↔ e = .key ∧ c.isRefused attributes = true := by
  rw [isRefused_iff]
  unfold clause?
  split_ifs with hcomplete
  · split
    · next hnone => simp [hnone]
    · next node hnode =>
      obtain ⟨key, v, rfl⟩ := exists_node?_eq_single hnode
      rw [bind_eq_error, isSendable_single_eq_error_iff]
      constructor
      · rintro (⟨he, herror⟩ | ⟨sendable, -, hreturn⟩)
        · exact ⟨he, hcomplete, _, hnode, herror⟩
        · split_ifs at hreturn <;> cases hreturn
      · rintro ⟨he, -, node, hsome, herror⟩
        rw [hnode] at hsome
        obtain rfl := Option.some.inj hsome
        exact .inl ⟨he, herror⟩
  · exact iff_of_false (fun h => by cases h) fun h => hcomplete h.2.1

/-- A condition is kept exactly if it is sent. -/
theorem isSome_kept? : (c.kept? attributes).isSome = c.isSent attributes := by
  rw [Bool.eq_iff_iff, Option.isSome_iff_exists, isSent_iff]
  constructor
  · rintro ⟨clause, hkept⟩
    obtain ⟨hcomplete, hnode, hsend, -⟩ :=
      clause?_eq_ok_some_iff.mp (kept?_eq_some_iff.mp hkept)
    obtain ⟨s, hs, henc⟩ := hsend.text
    exact ⟨hcomplete, clause.node, s, hnode, hs, henc⟩
  · rintro ⟨hcomplete, node, s, hnode, hs, henc⟩
    refine ⟨⟨node, c.explanation attributes⟩, kept?_eq_some_iff.mpr ?_⟩
    exact clause?_eq_ok_some_iff.mpr
      ⟨hcomplete, hnode, ⟨exists_node?_eq_single hnode, s, hs, henc⟩, rfl⟩

/-- Every value that the explanation of a sent condition tells can be told. -/
theorem isTellable_of_isSent (h : c.isSent attributes = true) {v : Value}
    (hv : v ∈ c.explainedValues attributes) : v.isTellable = true := by
  obtain ⟨-, node, s, hnode, hs, henc⟩ := isSent_iff.mp h
  exact isTellable_of_mem_explainedValues hnode (isTellable_of_compactWith hs henc) hv

end Condition

/-! ## Whole filters -/

/-- The filter set without the conditions that are not sent. -/
def FilterSet.sent (attributes : List Attribute) (filter : FilterSet) : FilterSet :=
  { filter with conditions := filter.conditions.filter (Condition.isSent attributes) }

section

variable {attributes : List Attribute} {conditions : List Condition} {filter : FilterSet}

theorem FilterSet.survivors_eq : filter.survivors attributes = (filter.sent attributes).conditions := by
  unfold survivors sent
  simp only [Condition.isSome_kept?]

/-- The clauses are those of the conditions that are sent. -/
theorem filterMap_kept?_filter_isSent :
    (conditions.filter (Condition.isSent attributes)).filterMap (Condition.kept? attributes) =
      conditions.filterMap (Condition.kept? attributes) := by
  induction conditions with
  | nil => rfl
  | cons c rest ih =>
    rw [List.filter_cons, List.filterMap_cons, ← Condition.isSome_kept?]
    cases hkept : c.kept? attributes with
    | none => exact ih
    | some clause =>
      rw [Option.isSome_some, if_pos rfl, List.filterMap_cons, hkept, ih]

theorem clauses_eq_error_iff {e : Unprintable} : clauses attributes conditions = .error e ↔
    e = .key ∧ ∃ c ∈ conditions, c.isRefused attributes = true := by
  induction conditions with
  | nil => exact iff_of_false (fun h => by cases h) fun ⟨_, c, hc, _⟩ => List.not_mem_nil hc
  | cons c rest ih =>
    rw [clauses, bind_eq_error, Condition.clause?_eq_error_iff, List.exists_mem_cons_iff]
    constructor
    · rintro (⟨he, hc⟩ | ⟨first, -, hafter⟩)
      · exact ⟨he, .inl hc⟩
      · exact (ih.mp (bind_pure_eq_error.mp hafter)).imp_right .inr
    · rintro ⟨he, hany⟩
      -- a condition before the refused one may itself be refused; the error is the same
      cases hfirst : c.clause? attributes with
      | error e' =>
        obtain ⟨-, hc⟩ := Condition.clause?_eq_error_iff.mp hfirst
        exact .inl ⟨he, hc⟩
      | ok first =>
        refine .inr ⟨first, rfl, bind_eq_error.mpr (.inl (ih.mpr ⟨he, hany.resolve_left ?_⟩))⟩
        intro hc
        rw [Condition.clause?_eq_error_iff.mpr ⟨rfl, hc⟩] at hfirst
        cases hfirst

/-- The clauses that were kept always assemble, into the filter of their nodes. -/
theorem exists_assemble (logic : Logic) (attributes : List Attribute)
    (conditions : List Condition) : ∃ compiled,
      assemble logic (conditions.filterMap (Condition.kept? attributes)) = .ok compiled ∧
        compiled.conditionCount = (conditions.filterMap (Condition.kept? attributes)).length ∧
        compiled.node =
          (if (conditions.filterMap (Condition.kept? attributes)).map Clause.node = [] then none
          else some (rootNode logic
            ((conditions.filterMap (Condition.kept? attributes)).map Clause.node))) ∧
        (∀ root, compiled.node = some root → compact root = .ok compiled.raw) ∧
        Percent.encode? compiled.raw = some compiled.encoded := by
  rcases eq_or_ne (conditions.filterMap (Condition.kept? attributes)) [] with hnil | hne
  · rw [hnil]
    refine ⟨{}, rfl, rfl, rfl, ?_, rfl⟩
    intro root hroot
    cases hroot
  · obtain ⟨raw, hcompact, henc, -, heq⟩ :=
      assemble_of_isSendable logic hne fun _ => isSendable_of_mem_kept
    refine ⟨_, heq, rfl, ?_, ?_, if_pos henc⟩
    · rw [if_neg (by simpa using hne)]
    · rintro root hroot
      rw [← Option.some.inj hroot]
      exact hcompact

end

/-- A compilation is stopped exactly by a condition that is refused. -/
theorem compileFilter_eq_error_iff {attributes : List Attribute} {filter : FilterSet}
    {e : Unprintable} : compileFilter attributes filter = .error e ↔
      e = .key ∧ ∃ c ∈ filter.conditions, c.isRefused attributes = true := by
  rw [compileFilter, bind_eq_error, clauses_eq_error_iff]
  refine or_iff_left ?_
  rintro ⟨found, hfound, herror⟩
  obtain ⟨-, rfl⟩ := clauses_eq_ok_iff.mp hfound
  obtain ⟨compiled, hassemble, -⟩ := exists_assemble filter.logic attributes filter.conditions
  rw [hassemble] at herror
  cases herror

/-- **A compilation succeeds if JSON has a form for all keys** in the values. -/
theorem exists_compileFilter_eq_ok {attributes : List Attribute} {filter : FilterSet}
    (h : ∀ c ∈ filter.conditions, c.ValuesHave fun v => v.hasJsonKeys = true) :
    ∃ compiled, compileFilter attributes filter = .ok compiled := by
  cases hcompiled : compileFilter attributes filter with
  | ok compiled => exact ⟨compiled, rfl⟩
  | error e =>
    obtain ⟨-, c, hc, hrefused⟩ := compileFilter_eq_error_iff.mp hcompiled
    rw [Condition.isRefused_eq_false (h c hc)] at hrefused
    cases hrefused

/-- **Conditions are dropped one by one.** The only error is that of a key JSON has no form for,
and it is raised exactly if a condition is refused; a condition whose values have no such key is
not. Otherwise the compilation succeeds, and in every field as if only the conditions that are
sent had been there: it counts them, its document is made of their nodes, its text is that of
the document and can be encoded, and every value the explanation tells can be told. -/
theorem compileFilter_drops (attributes : List Attribute) (filter : FilterSet) :
    (∀ e, compileFilter attributes filter = .error e ↔
        e = .key ∧ ∃ c ∈ filter.conditions, c.isRefused attributes = true) ∧
      (∀ c : Condition, (c.ValuesHave fun v => v.hasJsonKeys = true) →
        c.isRefused attributes = false) ∧
      ((∀ c ∈ filter.conditions, c.isRefused attributes = false) →
        ∃ compiled nodes, compileFilter attributes filter = .ok compiled ∧
          compileFilter attributes (filter.sent attributes) = .ok compiled ∧
          List.Forall₂ (fun c node => c.node? attributes = some node)
            (filter.sent attributes).conditions nodes ∧
          compiled.conditionCount = nodes.length ∧
          compiled.node = (if nodes = [] then none else some (rootNode filter.logic nodes)) ∧
          (∀ root, compiled.node = some root → compact root = .ok compiled.raw) ∧
          Percent.encode? compiled.raw = some compiled.encoded ∧
          ∀ c ∈ (filter.sent attributes).conditions, ∀ v ∈ c.explainedValues attributes,
            v.isTellable = true) := by
  refine ⟨fun e => compileFilter_eq_error_iff, fun c => Condition.isRefused_eq_false,
    fun hrefused => ?_⟩
  have hclauses : ∀ c ∈ filter.conditions, ∃ clause, c.clause? attributes = .ok clause := by
    intro c hc
    cases hclause : c.clause? attributes with
    | ok clause => exact ⟨clause, rfl⟩
    | error e =>
      obtain ⟨-, hfound⟩ := Condition.clause?_eq_error_iff.mp hclause
      rw [hrefused c hc] at hfound
      cases hfound
  obtain ⟨compiled, hassemble, hcount, hnode, hraw, hencoded⟩ :=
    exists_assemble filter.logic attributes filter.conditions
  refine ⟨compiled, _, compileFilter_eq_ok_iff.mpr ⟨hclauses, hassemble⟩,
    compileFilter_eq_ok_iff.mpr ⟨?_, ?_⟩, ?_, ?_, hnode, hraw, hencoded, ?_⟩
  · exact fun c hc => hclauses c (List.mem_of_mem_filter hc)
  · show assemble filter.logic ((filter.conditions.filter (Condition.isSent attributes)).filterMap
      (Condition.kept? attributes)) = .ok compiled
    rw [filterMap_kept?_filter_isSent, hassemble]
  · rw [← FilterSet.survivors_eq]
    exact forall₂_survivors_node attributes filter
  · rw [hcount, List.length_map]
  · intro c hc v hv
    exact Condition.isTellable_of_isSent (List.of_mem_filter hc) hv

/-- A condition that asks whether a field equals a value. -/
def equalsCondition (field : Text) (value : Value) : Condition where
  field
  operator := some "eq"
  value

/-- Values JSON has no plain form for: a mapping from a number to a day, which is sent, and not
a number, a lone surrogate and nothing at all, which are dropped. -/
def oddFilter : FilterSet where
  conditions :=
    [equalsCondition "a" (.mapping [(.int 1, .date ⟨2024, 1, 31⟩)]),
      equalsCondition "b" (.float .nan), equalsCondition "c" (.text [0xD800]),
      equalsCondition "d" .null]

theorem compileFilter_drops_odd :
    (oddFilter.sent []).conditions.map Condition.field = ["a"] ∧
      ∃ compiled, compileFilter [] oddFilter = .ok compiled ∧
        compileFilter [] (oddFilter.sent []) = .ok compiled ∧ compiled.conditionCount = 1 := by
  have hfields : (oddFilter.sent []).conditions.map Condition.field = ["a"] := by decide +kernel
  have hrefused : ∀ c ∈ oddFilter.conditions, c.isRefused [] = false := by decide +kernel
  obtain ⟨-, -, hsucceeds⟩ := compileFilter_drops [] oddFilter
  obtain ⟨compiled, nodes, hcompiled, hsent, hnodes, hcount, -⟩ := hsucceeds hrefused
  refine ⟨hfields, compiled, hcompiled, hsent, ?_⟩
  rw [hcount, ← hnodes.length_eq, ← List.length_map Condition.field, hfields]
  rfl

/-- **A day as a key stops everything**, the conditions that could be sent included. -/
theorem compileFilter_dayKey :
    compileFilter [] { conditions := [equalsCondition "a" (.mapping [(.date ⟨2024, 1, 1⟩, .int 1)]),
        equalsCondition "b" (.text "ok")] } = .error .key ∧
      (equalsCondition "b" (.text "ok")).isSent [] = true := by
  exact ⟨rfl, by decide +kernel⟩

end ProfileFilter
