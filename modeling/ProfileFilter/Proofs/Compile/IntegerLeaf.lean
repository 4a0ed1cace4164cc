import ProfileFilter.Proofs.Compile.Survival
import ProfileFilter.Proofs.Condition.ListValue
import ProfileFilter.Proofs.Number.Integer

/-!
# Integers from entry to text

An integer that is entered as text is read, put at the end of the path of its field, and printed.
The first and the last step undo each other: whatever blanks were entered around it, the integer
stands in the text of the filter as it is written without them. What is no integer stays the text
it is.

Main statement: `coerceScalar_integer`.
-/

namespace ProfileFilter

open Json

/-! ## The text of a path -/

/-- The text of a path around the text of what it ends in: each segment opens a mapping. -/
def pathText (path leaf : Text) : Text :=
  (path.splitOn '.').foldr
    (fun segment inner => "\x7b" ++ Json.string segment ++ ":" ++ inner ++ "\x7d") leaf

/-- **A path prints around what it ends in.** -/
theorem compactWith_nestPath {rule : NumberRule} {v : Value} {leaf : Text}
    (h : compactWith rule v = .ok leaf) (path : Text) :
    compactWith rule (nestPath path v) = .ok (pathText path leaf) := by
  unfold nestPath pathText nestSegments
  induction path.splitOn '.' with
  | nil => exact h
  | cons segment rest ih =>
    rw [List.foldr_cons, List.foldr_cons]
    refine compactWith_single_eq_ok.mpr ⟨_, ih, ?_⟩
    simp only [List.append_assoc]
    rfl

namespace Condition

variable {attributes : List Attribute} {c : Condition}

/-! ## Conditions on integers -/

/-- Equality puts the leaf at the end of the path, and is not shown. -/
theorem flatNode_of_eq (heq : findOperator? c.operator = some .eq)
    (htype : c.resolvedType attributes ≠ some .array) :
    c.flatNode attributes = nestPath c.field (c.leaf attributes) := by
  have hkind : c.canonical.bind OperatorCode.ofCode? = some .eq := heq
  simp only [flatNode, hkind, htype, if_false]
  rfl

/-- The condition asks for equality with an integer, which is entered between blanks. -/
structure AsksInteger (attributes : List Attribute) (c : Condition) (n : Int) : Prop where
  /-- the type that counts -/
  type : c.resolvedType attributes = some .integer
  /-- the operator, in whatever spelling -/
  operator : findOperator? c.operator = some .eq
  /-- the value as entered -/
  value : ∃ u v : Text, u.AllBlank ∧ v.AllBlank ∧ c.value = .text (u ++ Text.ofInt n ++ v)

end Condition

/-- An integer is read from its text, whatever blanks are put around it. -/
theorem coerceScalar_ofInt {n : Int} (h : (Text.ofNat n.natAbs).length ≤ 4300) {u v : Text}
    (hu : u.AllBlank) (hv : v.AllBlank) :
    coerceScalar (some .integer) (.text (u ++ Text.ofInt n ++ v)) = .int n := by
  rw [coerceScalar, readAs?, readInteger?_ofInt h hu hv]
  rfl

namespace Condition.AsksInteger

variable {attributes : List Attribute} {c : Condition} {n : Int}

theorem isList_eq (h : c.AsksInteger attributes n) : c.isList attributes = false := by
  rw [isList, h.type]
  rfl

theorem node?_eq (h : c.AsksInteger attributes n) (hn : (Text.ofNat n.natAbs).length ≤ 4300) :
    c.node? attributes = some (nestPath c.field (.int n)) := by
  obtain ⟨u, v, hu, hv, hvalue⟩ := h.value
  have htakesList : takesList c.operator = false := by
    rw [takesList, h.operator]
    rfl
  have hleaf : c.leaf attributes = .int n := by
    rw [leaf, h.type, hvalue, coerceValue_of_not_takesList htakesList, coerceScalar_ofInt hn hu hv]
  rw [node?_of_not_isList h.isList_eq, flatNode_of_eq h.operator (by rw [h.type]; decide), hleaf]

theorem isComplete_iff (h : c.AsksInteger attributes n) :
    c.isComplete attributes = true ↔ c.field ≠ [] := by
  obtain ⟨u, v, -, -, hvalue⟩ := h.value
  have hgiven : IsGiven c.value := by
    rw [hvalue]
    refine ⟨Value.noConfusion, fun hempty => ?_⟩
    obtain ⟨hleft, -⟩ := List.append_eq_nil_iff.mp (Value.text.inj hempty)
    exact Text.ofInt_ne_nil n (List.append_eq_nil_iff.mp hleft).2
  have hwritten : IsWritten c.operator := by
    rw [← isSome_canonicalOperator?_iff, canonicalOperator?_eq h.operator]
    rfl
  rw [isComplete_iff_of_not_isList h.isList_eq]
  exact and_iff_left ⟨hwritten, .inr (.inr hgiven)⟩

/-- The condition is sent if its field is filled in and can be encoded, and never stops the
compilation. -/
theorem isEmpty_compileFilter (h : c.AsksInteger attributes n)
    (hn : (Text.ofNat n.natAbs).length ≤ 4300) (logic : Logic) :
    (compileFilter attributes { conditions := [c], logic }).map CompiledFilter.isEmpty =
      .ok (c.field.isEmpty || !c.field.isEncodable) := by
  have hfate : (c.node? attributes).map fate = some (.ok c.field.isEncodable) := by
    rw [h.node?_eq hn, Option.map_some, fate_nestPath, fate_int (decide_eq_true hn)]
    exact congrArg (fun b => some (Except.ok b)) (Bool.and_true _)
  have hsent : c.isSent attributes = (!c.field.isEmpty && c.field.isEncodable) := by
    rw [Bool.eq_iff_iff, isSent_iff_fate, h.isComplete_iff, hfate]
    simp
  have hrefused : ¬ c.isRefused attributes = true := by
    rw [isRefused_iff_fate, hfate]
    simp
  rw [map_isEmpty_compileFilter_one, if_neg hrefused, hsent, Bool.not_and, Bool.not_not]

/-- **An integer is sent as it is written**, at the end of the path of its field. -/
theorem raw_compileFilter (h : c.AsksInteger attributes n)
    (hn : (Text.ofNat n.natAbs).length ≤ 4300) (logic : Logic) :
    ∃ compiled, compileFilter attributes { conditions := [c], logic } = .ok compiled ∧
      compiled.raw = if c.field.isEmpty || !c.field.isEncodable then []
        else pathText c.field (Text.ofInt n) := by
  have hempty := h.isEmpty_compileFilter hn logic
  cases hcompiled : compileFilter attributes { conditions := [c], logic } with
  | error e =>
    rw [hcompiled] at hempty
    cases hempty
  | ok compiled =>
    rw [hcompiled] at hempty
    refine ⟨compiled, rfl, ?_⟩
    rw [← Except.ok.inj hempty]
    split_ifs with hraw
    · exact List.isEmpty_iff.mp hraw
    · -- what is sent is the text of the node
      obtain ⟨-, hroot, htext⟩ := node_of_compileFilter hcompiled (mt List.isEmpty_iff.mpr hraw)
      have hnode := ((node_compileFilter_one hcompiled).2 _).mp hroot
      rw [h.node?_eq hn] at hnode
      rw [← Option.some.inj hnode.2.1] at htext
      have hprinted : compact (.int n) = .ok (Text.ofInt n) := if_pos (decide_eq_true hn)
      exact Except.ok.inj (htext.symm.trans (compactWith_nestPath hprinted c.field))

end Condition.AsksInteger

/-- **Integers are read exactly, and printed back.** Coercion makes an integer of the texts that
spell one, and of no other text; every other text stays as it is. In particular the text of an
integer with at most 4300 digits is read as that integer, whatever blanks are put around it; and a
condition that asks for equality with it is sent with the text of the integer at the end of the
path of its field, if the field is filled in and can be encoded. -/
theorem coerceScalar_integer :
    (∀ (t : Text) (n : Int), coerceScalar (some .integer) (.text t) = .int n ↔ SpellsInteger t n) ∧
      (∀ t : Text, (∀ n, ¬ SpellsInteger t n) → coerceScalar (some .integer) (.text t) = .text t) ∧
      ∀ n : Int, (Text.ofNat n.natAbs).length ≤ 4300 →
        (∀ u v : Text, u.AllBlank → v.AllBlank →
          coerceScalar (some .integer) (.text (u ++ Text.ofInt n ++ v)) = .int n) ∧
        ∀ (attributes : List Attribute) (c : Condition) (logic : Logic),
          c.AsksInteger attributes n →
            ∃ compiled, compileFilter attributes { conditions := [c], logic } = .ok compiled ∧
              compiled.raw = if c.field.isEmpty || !c.field.isEncodable then []
                else pathText c.field (Text.ofInt n) := by
  have hcoerced : ∀ t : Text, coerceScalar (some .integer) (.text t) =
      ((readInteger? t).map Value.int).getD (.text t) := fun _ => rfl
  refine ⟨fun t n => ?_, fun t hnone => ?_, fun n hn =>
    ⟨fun u v => coerceScalar_ofInt hn, fun attributes c logic h => h.raw_compileFilter hn logic⟩⟩
  · rw [hcoerced, ← readInteger?_eq_some_iff]
    cases readInteger? t <;> simp
  · cases hread : readInteger? t with
    | none => rw [hcoerced, hread, Option.map_none, Option.getD_none]
    | some n => exact absurd (readInteger?_eq_some_iff.mp hread) (hnone n)

/-- A text with an underscore spells no integer. A negative integer is entered between a
no-break space and a line break, in a condition on a nested field. -/
theorem coerceScalar_integer_entered :
    (∀ n, ¬ SpellsInteger "1_000" n) ∧
      coerceScalar (some .integer) (.text "1_000") = .text "1_000" ∧
      (Text.ofNat (-42 : Int).natAbs).length ≤ 4300 ∧
      Text.AllBlank "\u00a0" ∧ Text.AllBlank "\n" ∧
      coerceScalar (some .integer) (.text "\u00a0-42\n") = .int (-42) ∧
      ∃ c : Condition, c.AsksInteger [] (-42) ∧
        ∃ compiled, compileFilter [] { conditions := [c] } = .ok compiled ∧
          compiled.raw = "\x7b\"a\":\x7b\"b\":-42\x7d\x7d" := by
  have hread : ∀ n, ¬ SpellsInteger "1_000" n := by
    intro n h
    rw [← readInteger?_eq_some_iff, show readInteger? "1_000" = none by decide] at h
    cases h
  have hu : Text.AllBlank "\u00a0" := by decide
  have hv : Text.AllBlank "\n" := by decide
  have hn : (Text.ofNat (-42 : Int).natAbs).length ≤ 4300 := by decide
  obtain ⟨-, hstays, hintegers⟩ := coerceScalar_integer
  obtain ⟨hentered, hsent⟩ := hintegers (-42) hn
  have hasks : Condition.AsksInteger []
      { field := "a.b", operator := some " eq", value := .text "\u00a0-42\n",
        fieldType := some .integer } (-42) :=
    ⟨by decide, by decide, "\u00a0", "\n", hu, hv, by decide⟩
  obtain ⟨compiled, hcompiled, hraw⟩ := hsent [] _ .and hasks
  exact ⟨hread, hstays _ hread, hn, hu, hv, hentered _ _ hu hv, _, hasks, compiled, hcompiled,
    hraw.trans (by decide)⟩

end ProfileFilter
