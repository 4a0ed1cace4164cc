import ProfileFilter.Proofs.Compile.Alike
import Mathlib.Data.List.Nodup
import Mathlib.Data.List.Perm.Basic

/-!
# Conditions that carry their types

A condition can leave its type and its schema to the known attributes. `Condition.carry`
writes onto a condition what the attributes say about its field, so that it needs them no
longer. The compiler sees the attributes only through the type and the schema that count, so
two conditions that resolve alike (`ResolvesAlike`) are alike to it.

Main statement: `compileFilter_carry`.
-/

namespace ProfileFilter

namespace Condition

/-- The condition with what the known attributes say about its field written onto it: the
type, unless it has one of its own, and the schema, unless its own has a field. -/
def carry (attributes : List Attribute) (c : Condition) : Condition :=
  match resolveAttribute? attributes c.field with
  | none => c
  | some a => { c with
      fieldType := some (c.fieldType.getD a.type)
      schema := if (c.schema.getD []).isEmpty then a.schema else c.schema }

/-- Two conditions, each with its known attributes, that differ at most in whether their
type and their schema are their own. -/
structure ResolvesAlike (attributes attributes' : List Attribute) (c c' : Condition) : Prop where
  /-- the same field -/
  field : c.field = c'.field
  /-- the same operator -/
  operator : c.operator = c'.operator
  /-- the same value -/
  value : c.value = c'.value
  /-- the same mode -/
  listMode : c.listMode = c'.listMode
  /-- the same logic of items -/
  listLogic : c.listLogic = c'.listLogic
  /-- the same items -/
  listConditions : c.listConditions = c'.listConditions
  /-- the same type counts -/
  type : c.resolvedType attributes = c'.resolvedType attributes'
  /-- the same schema counts -/
  schema : c.resolvedSchema attributes = c'.resolvedSchema attributes'

/-- Conditions that resolve alike are alike. -/
theorem ResolvesAlike.alike {attributes attributes' : List Attribute} {c c' : Condition}
    (h : ResolvesAlike attributes attributes' c c') : Alike attributes attributes' c c' := by
  have hitems : c.completeItems = c'.completeItems := by
    rw [completeItems, completeItems, items, items, h.listConditions]
  refine ⟨h.field, ?_, h.value, h.listMode, h.listLogic, ?_, h.type, h.schema⟩
  · rw [canonical, canonical, h.operator]
  · rw [hitems]
    exact List.forall₂_same.mpr fun item _ => .refl item

end Condition

/-! ## Carried types resolve like those of the attributes -/

namespace Condition

variable {attributes : List Attribute} {c : Condition}

@[simp] theorem resolveAttribute?_nil (field : Text) : resolveAttribute? [] field = none := by
  simp [resolveAttribute?, Attribute.named?]

theorem resolvedType_of_some {a : Attribute} (h : resolveAttribute? attributes c.field = some a) :
    c.resolvedType attributes = some (c.fieldType.getD a.type) := by
  rw [resolvedType, h]
  cases c.fieldType <;> rfl

theorem resolvedSchema_of_some {a : Attribute}
    (h : resolveAttribute? attributes c.field = some a) :
    c.resolvedSchema attributes =
      (if (c.schema.getD []).isEmpty then a.schema else c.schema).getD [] := by
  rw [resolvedSchema, h]
  rcases c.schema with _ | _ | ⟨entry, entries⟩ <;> rfl

/-- Without attributes, the schema that counts is the condition's own. -/
theorem resolvedSchema_nil : c.resolvedSchema [] = c.schema.getD [] := by
  rw [resolvedSchema, resolveAttribute?_nil]
  rcases c.schema with _ | _ | ⟨entry, entries⟩ <;> rfl

/-- **A condition that carries its type resolves without attributes as it did with them.** -/
theorem resolvesAlike_carry (attributes : List Attribute) (c : Condition) :
    ResolvesAlike [] attributes (c.carry attributes) c := by
  cases h : resolveAttribute? attributes c.field with
  | none =>
    have hcarry : c.carry attributes = c := by rw [carry, h]
    rw [hcarry]
    refine ⟨rfl, rfl, rfl, rfl, rfl, rfl, ?_, ?_⟩
    · rw [resolvedType, resolvedType, h, resolveAttribute?_nil]
    · rw [resolvedSchema, resolvedSchema, h, resolveAttribute?_nil]
  | some a =>
    have hcarry : c.carry attributes = { c with
        fieldType := some (c.fieldType.getD a.type)
        schema := if (c.schema.getD []).isEmpty then a.schema else c.schema } := by
      rw [carry, h]
    rw [hcarry]
    refine ⟨rfl, rfl, rfl, rfl, rfl, rfl, ?_, ?_⟩
    · rw [resolvedType_of_some h]
      rfl
    · rw [resolvedSchema_of_some h, resolvedSchema_nil]

/-- A condition whose field means the same attribute resolves alike. -/
theorem resolvesAlike_of_resolveAttribute? {known attributes : List Attribute} {c : Condition}
    (h : resolveAttribute? known c.field = resolveAttribute? attributes c.field) :
    ResolvesAlike known attributes c c := by
  refine ⟨rfl, rfl, rfl, rfl, rfl, rfl, ?_, ?_⟩
  · rw [resolvedType, resolvedType, h]
  · rw [resolvedSchema, resolvedSchema, h]

end Condition

/-! ## Which attributes count -/

namespace Attribute

theorem eq_of_named?_eq_some {name : Text} {attributes : List Attribute} {a : Attribute}
    (h : named? name attributes = some a) : a ∈ attributes ∧ a.name = name := by
  have hname := List.find?_some h
  simp only [beq_iff_eq] at hname
  exact ⟨List.mem_reverse.mp (List.mem_of_find?_eq_some h), hname⟩

/-- Leaving attributes out does not change which one has a given name, if that one stays. -/
theorem named?_filter {name : Text} {p : Attribute → Bool} {attributes : List Attribute}
    (h : ∀ a, named? name attributes = some a → p a = true) :
    named? name (attributes.filter p) = named? name attributes := by
  rw [named?, ← List.filter_reverse]
  rw [named?] at h ⊢
  generalize attributes.reverse = known at h ⊢
  induction known with
  | nil => rfl
  | cons a rest ih =>
    by_cases hname : a.name = name
    · have hp : p a = true := h a (by simp [hname])
      simp [hp, hname]
    · have hrest := ih fun b hb => h b (by simpa [hname] using hb)
      by_cases hp : p a = true
      · simpa [hp, hname] using hrest
      · simpa [hp, hname] using hrest

/-- Among attributes of distinct names, the one of a given name is the one that is there. -/
theorem named?_eq_some_iff {name : Text} {attributes : List Attribute} {a : Attribute}
    (h : (attributes.map Attribute.name).Nodup) :
    named? name attributes = some a ↔ a ∈ attributes ∧ a.name = name := by
  constructor
  · exact eq_of_named?_eq_some
  · rintro ⟨hmem, hname⟩
    obtain ⟨b, hb⟩ : ∃ b, named? name attributes = some b := by
      refine Option.isSome_iff_exists.mp (List.find?_isSome.mpr ?_)
      exact ⟨a, List.mem_reverse.mpr hmem, beq_iff_eq.mpr hname⟩
    obtain ⟨hbmem, hbname⟩ := eq_of_named?_eq_some hb
    rw [hb, List.inj_on_of_nodup_map h hbmem hmem (hbname.trans hname.symm)]

/-- The order of attributes with distinct names does not matter. -/
theorem named?_eq_of_perm {known attributes : List Attribute} (name : Text)
    (hperm : known.Perm attributes) (h : (attributes.map Attribute.name).Nodup) :
    named? name known = named? name attributes := by
  have hknown : (known.map Attribute.name).Nodup := (hperm.map _).nodup_iff.mpr h
  ext a
  rw [named?_eq_some_iff hknown, named?_eq_some_iff h, hperm.mem_iff]

end Attribute

/-- Leaving attributes out does not change what a field means, if what it means stays. -/
theorem resolveAttribute?_filter {field : Text} {p : Attribute → Bool}
    {attributes : List Attribute}
    (h : ∀ a, resolveAttribute? attributes field = some a → p a = true) :
    resolveAttribute? (attributes.filter p) field = resolveAttribute? attributes field := by
  rw [resolveAttribute?] at h ⊢
  rw [resolveAttribute?]
  cases hown : Attribute.named? field attributes with
  | some a =>
    rw [Attribute.named?_filter (fun b hb => h b (by rw [hb])), hown]
  | none =>
    rw [Attribute.named?_filter (fun b hb => h b (by rw [hb])), hown]
    rw [hown] at h
    -- the second name is only tried for a dotted field
    by_cases hdot : field.contains '.' = true
    · simp only [hdot, if_true] at h ⊢
      exact Attribute.named?_filter h
    · simp only [if_neg hdot]

theorem resolveAttribute?_eq_of_perm {known attributes : List Attribute} (field : Text)
    (hperm : known.Perm attributes) (h : (attributes.map Attribute.name).Nodup) :
    resolveAttribute? known field = resolveAttribute? attributes field := by
  rw [resolveAttribute?, resolveAttribute?, Attribute.named?_eq_of_perm _ hperm h,
    Attribute.named?_eq_of_perm _ hperm h]

/-! ## Whole filters -/

/-- The filter set with what the known attributes say written onto its conditions. -/
def FilterSet.carry (attributes : List Attribute) (filter : FilterSet) : FilterSet :=
  { filter with conditions := filter.conditions.map (Condition.carry attributes) }

theorem compileFilter_eq_of_resolvesAlike {attributes attributes' : List Attribute}
    {filter filter' : FilterSet} (hlogic : filter.logic = filter'.logic)
    (h : List.Forall₂ (Condition.ResolvesAlike attributes attributes') filter.conditions
      filter'.conditions) :
    compileFilter attributes filter = compileFilter attributes' filter' :=
  compileFilter_eq_of_alike hlogic (h.imp fun _ _ hc => hc.alike)

/-- Attributes count only as far as the fields of the conditions mean them. -/
theorem compileFilter_eq_of_resolveAttribute? {known attributes : List Attribute}
    {filter : FilterSet}
    (h : ∀ c ∈ filter.conditions,
      resolveAttribute? known c.field = resolveAttribute? attributes c.field) :
    compileFilter known filter = compileFilter attributes filter :=
  compileFilter_eq_of_resolvesAlike rfl
    (List.forall₂_same.mpr fun c hc => Condition.resolvesAlike_of_resolveAttribute? (h c hc))

/-- **Types may be carried or resolved.** A filter set that carries what the attributes say
compiles without them to the same result, or stops alike. So attributes that no condition
looks up can be left out, and if no two attributes share a name their order does not
matter. -/
theorem compileFilter_carry (attributes : List Attribute) (filter : FilterSet) :
    compileFilter [] (filter.carry attributes) = compileFilter attributes filter ∧
      (∀ stays : Attribute → Bool,
        (∀ c ∈ filter.conditions, ∀ a, resolveAttribute? attributes c.field = some a →
          stays a = true) →
        compileFilter (attributes.filter stays) filter = compileFilter attributes filter) ∧
      ∀ known, known.Perm attributes → (attributes.map Attribute.name).Nodup →
        compileFilter known filter = compileFilter attributes filter := by
  refine ⟨?_, ?_, ?_⟩
  · refine compileFilter_eq_of_resolvesAlike rfl (List.forall₂_map_left_iff.mpr ?_)
    exact List.forall₂_same.mpr fun c _ => Condition.resolvesAlike_carry attributes c
  · intro stays hstays
    exact compileFilter_eq_of_resolveAttribute? fun c hc => resolveAttribute?_filter (hstays c hc)
  · intro known hperm hnodup
    exact compileFilter_eq_of_resolveAttribute? fun c _ =>
      resolveAttribute?_eq_of_perm c.field hperm hnodup

/-- A number, a list and a field that nobody asks about. -/
def orderAttributes : List Attribute :=
  [{ name := "age", type := .integer },
    { name := "data" ++ listSeparator :: ("Orders" : Text), type := .list
      schema := some [("quantity", .integer)] },
    { name := "city" }]

/-- Conditions on the number and on the list, neither with a type of its own. -/
def orderFilter : FilterSet where
  conditions := [
    { field := "age", operator := some "gt", value := .text "30" },
    { field := "data.Orders", schema := some []
      listConditions := some [{ field := "quantity", operator := some "in"
                                value := .text "1, 2" }] }]

theorem compileFilter_carry_orders :
    compileFilter [] (orderFilter.carry orderAttributes) =
        compileFilter orderAttributes orderFilter ∧
      compileFilter (orderAttributes.filter fun a => a.name != ("city" : Text)) orderFilter =
        compileFilter orderAttributes orderFilter ∧
      compileFilter orderAttributes.reverse orderFilter =
        compileFilter orderAttributes orderFilter ∧
      (compileFilter orderAttributes orderFilter).toOption.map CompiledFilter.raw = some
        ("\x7b\"#and\":[\x7b\"#gt\":\x7b\"age\":30\x7d\x7d,\x7b\"#any\":\x7b\"data\\u0001Orders\":" ++
          "\x7b\"#and\":[\x7b\"#in\":\x7b\"quantity\":[1,2]\x7d\x7d]\x7d\x7d\x7d]\x7d" : String) := by
  have hlooked : ∀ c ∈ orderFilter.conditions, ∀ a,
      resolveAttribute? orderAttributes c.field = some a → (a.name != ("city" : Text)) = true := by
    have hall : orderFilter.conditions.all (fun c =>
        (resolveAttribute? orderAttributes c.field).all fun a => a.name != ("city" : Text)) = true := by
      decide +kernel
    intro c hc a ha
    have hc := List.all_eq_true.mp hall c hc
    rwa [ha] at hc
  have hnames : (orderAttributes.map Attribute.name).Nodup := by decide +kernel
  obtain ⟨hcarry, hleave, horder⟩ := compileFilter_carry orderAttributes orderFilter
  exact ⟨hcarry, hleave _ hlooked, horder _ orderAttributes.reverse_perm hnames, by decide +kernel⟩

end ProfileFilter
