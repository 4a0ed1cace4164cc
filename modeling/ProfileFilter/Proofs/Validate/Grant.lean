import ProfileFilter.Proofs.Compile.Hereditary
import ProfileFilter.Validate.Model

/-!
# What checks grant

A check *grants* a property if whatever it makes of a value that has another property has it
(`Check.Grants`). The checks for lists, optional values and records grant what the checks
they are made of do, as long as the property of the values passes down to their parts. So
whatever is known of a whole document is known of the values of the conditions that are read
from it.

Main statement: `Check.grants_filterSet`.
-/

namespace ProfileFilter

namespace Validated

variable {α β : Type}

theorem map_eq_valid {f : α → β} {v : Validated α} {b : β} :
    f <$> v = .valid b ↔ ∃ a, v = .valid a ∧ f a = b := by
  cases v <;> simp [Functor.map, Validated.map]

theorem seq_eq_valid {f : Validated (α → β)} {v : Validated α} {b : β} :
    f <*> v = .valid b ↔ ∃ g a, f = .valid g ∧ v = .valid a ∧ g a = b := by
  cases f <;> cases v <;> simp [Seq.seq, Validated.seq]

theorem within_eq_valid {step : Step} {v : Validated α} {a : α} :
    v.within step = .valid a ↔ v = .valid a := by
  cases v <;> simp [within]

theorem under_eq_valid {key : Text} {v : Validated α} {a : α} :
    v.under key = .valid a ↔ v = .valid a :=
  within_eq_valid

/-- Collected values were all valid. -/
theorem of_mem_collect {vs : List (Validated α)} {as : List α} (h : collect vs = .valid as) :
    ∀ a ∈ as, .valid a ∈ vs := by
  induction vs generalizing as with
  | nil =>
    cases h
    exact fun a ha => absurd ha List.not_mem_nil
  | cons v rest ih =>
    obtain ⟨g, others, hfirst, hothers, rfl⟩ := seq_eq_valid.mp h
    obtain ⟨first, rfl, rfl⟩ := map_eq_valid.mp hfirst
    intro a ha
    rcases List.mem_cons.mp ha with rfl | ha
    · exact List.mem_cons_self
    · exact List.mem_cons_of_mem _ (ih hothers a ha)

end Validated

/-- A property of values that null has, and that passes down from a value to its parts. -/
structure Value.PassesDown (P : Value → Prop) : Prop where
  /-- null has it -/
  null : P .null
  /-- the elements of a list have it if the list does -/
  list {items : List Value} : P (.list items) → ∀ v ∈ items, P v
  /-- the elements of a fixed sequence have it if the sequence does -/
  tuple {items : List Value} : P (.tuple items) → ∀ v ∈ items, P v
  /-- the values of the entries have it if the mapping does -/
  mapping {entries : Entries} : P (.mapping entries) → ∀ e ∈ entries, P e.2

theorem Value.PassesDown.elements {P : Value → Prop} (h : PassesDown P) {v : Value}
    {items : List Value} (hv : P v) (hitems : v.elements? = some items) : ∀ w ∈ items, P w := by
  cases v with
  | list found =>
    obtain rfl := Option.some.inj hitems
    exact h.list hv
  | tuple found =>
    obtain rfl := Option.some.inj hitems
    exact h.tuple hv
  | _ => cases hitems

theorem Value.mem_of_lookup? {key : Text} {v : Value} {entries : Entries}
    (h : lookup? key entries = some v) : ∃ e ∈ entries, e.2 = v := by
  induction entries with
  | nil => cases h
  | cons e rest ih =>
    unfold lookup? at h
    split at h
    · next found hfound =>
      obtain ⟨e, he, rfl⟩ := ih (hfound.trans h)
      exact ⟨e, List.mem_cons_of_mem _ he, rfl⟩
    · split at h
      · split_ifs at h
        exact ⟨e, List.mem_cons_self, Option.some.inj h⟩
      · cases h

namespace Check

variable {α : Type} {P : Value → Prop} {Q : α → Prop} {check : Value → Validated α}

/-- Whatever `check` makes of a value that has `P` has `Q`. -/
def Grants (check : Value → Validated α) (P : Value → Prop) (Q : α → Prop) : Prop :=
  ∀ v a, P v → check v = .valid a → Q a

theorem Grants.nullable (h : Grants check P Q) :
    Grants (nullable check) P fun found => ∀ a ∈ found, Q a := by
  intro v found hv hvalid a ha
  cases v with
  | null =>
    cases hvalid
    cases ha
  | _ =>
    obtain ⟨b, hb, rfl⟩ := Validated.map_eq_valid.mp hvalid
    obtain rfl := Option.mem_some_iff.mp ha
    exact h _ _ hv hb

theorem Grants.list (h : Grants check P Q) (hP : Value.PassesDown P) :
    Grants (list check) P fun found => ∀ a ∈ found, Q a := by
  intro v found hv hvalid a ha
  unfold Check.list at hvalid
  split at hvalid
  · next items hitems =>
    have hmem := Validated.of_mem_collect hvalid a ha
    obtain ⟨n, hn, heq⟩ := List.mem_mapIdx.mp hmem
    exact h _ _ (hP.elements hv hitems _ (List.getElem_mem hn)) (Validated.within_eq_valid.mp heq)
  · cases hvalid

/-- A record grants what is granted of its entries. -/
theorem Grants.record {problem : Problem} {check : Entries → Validated α}
    (hP : Value.PassesDown P)
    (h : ∀ entries a, (∀ e ∈ entries, P e.2) → check entries = .valid a → Q a) :
    Grants (record problem check) P Q := by
  intro v a hv hvalid
  cases v with
  | mapping entries => exact h entries a (hP.mapping hv) hvalid
  | _ => cases hvalid

/-- An optional field has what its check grants, if the default has it. -/
theorem Grants.optional (h : Grants check P Q) {keys : List Text} {default a : α}
    {entries : Entries} (hentries : ∀ e ∈ entries, P e.2) (hdefault : Q default)
    (hvalid : optional keys default check entries = .valid a) : Q a := by
  unfold Check.optional at hvalid
  split at hvalid
  · next key v hfound =>
    obtain ⟨_, -, hlookup⟩ := List.exists_of_findSome?_eq_some hfound
    obtain ⟨w, hw, heq⟩ := Option.map_eq_some_iff.mp hlookup
    obtain ⟨e, he, rfl⟩ := Value.mem_of_lookup? hw
    obtain ⟨-, rfl⟩ := Prod.mk.inj heq
    exact h _ _ (hentries e he) (Validated.under_eq_valid.mp hvalid)
  · cases hvalid
    exact hdefault

/-! ## Conditions -/

theorem grants_anything : Grants anything P P := by
  intro v a hv hvalid
  cases hvalid
  exact hv

theorem grants_itemCondition (source : Source) (hP : Value.PassesDown P) :
    Grants (itemCondition source) P fun item => P item.value := by
  refine Grants.record hP fun entries item hentries hvalid => ?_
  obtain ⟨_, value, hupToOperator, hvalue, rfl⟩ := Validated.seq_eq_valid.mp hvalid
  obtain ⟨_, _, hupToField, -, rfl⟩ := Validated.seq_eq_valid.mp hupToOperator
  obtain ⟨_, _, hid, -, rfl⟩ := Validated.seq_eq_valid.mp hupToField
  obtain ⟨_, -, rfl⟩ := Validated.map_eq_valid.mp hid
  exact grants_anything.optional hentries hP.null hvalue

/-- The fields of a condition that hold values are its value and its item conditions. -/
theorem grants_condition (source : Source) (hP : Value.PassesDown P) :
    Grants (condition source) P fun c => c.ValuesHave P := by
  refine Grants.record hP fun entries c hentries hvalid => ?_
  -- the record is applied field by field, so it comes apart from its last field on
  obtain ⟨_, _, hupToItems, -, rfl⟩ := Validated.seq_eq_valid.mp hvalid
  obtain ⟨_, items, hupToLogic, hitems, rfl⟩ := Validated.seq_eq_valid.mp hupToItems
  obtain ⟨_, _, hupToMode, -, rfl⟩ := Validated.seq_eq_valid.mp hupToLogic
  obtain ⟨_, _, hupToType, -, rfl⟩ := Validated.seq_eq_valid.mp hupToMode
  obtain ⟨_, _, hupToValue, -, rfl⟩ := Validated.seq_eq_valid.mp hupToType
  obtain ⟨_, value, hupToOperator, hvalue, rfl⟩ := Validated.seq_eq_valid.mp hupToValue
  obtain ⟨_, _, hupToField, -, rfl⟩ := Validated.seq_eq_valid.mp hupToOperator
  obtain ⟨_, _, hid, -, rfl⟩ := Validated.seq_eq_valid.mp hupToField
  obtain ⟨_, -, rfl⟩ := Validated.map_eq_valid.mp hid
  refine ⟨grants_anything.optional hentries hP.null hvalue, fun item hitem => ?_⟩
  have hfound : ∀ found ∈ items, ∀ item ∈ found, P item.value :=
    ((grants_itemCondition source hP).list hP).nullable.optional hentries
      (fun _ h => absurd h (Option.not_mem_none _)) hitems
  cases items with
  | none => exact absurd hitem List.not_mem_nil
  | some found => exact hfound found rfl item hitem

/-- **The values of the conditions are parts of the document** they are read from. -/
theorem grants_filterSet (source : Source) (hP : Value.PassesDown P) :
    Grants (filterSet source) P fun filter => ∀ c ∈ filter.conditions, c.ValuesHave P := by
  refine Grants.record hP fun entries filter hentries hvalid => ?_
  obtain ⟨_, _, hupToLogic, -, rfl⟩ := Validated.seq_eq_valid.mp hvalid
  obtain ⟨conditions, hconditions, rfl⟩ := Validated.map_eq_valid.mp hupToLogic
  exact ((grants_condition source hP).list hP).optional hentries
    (fun _ h => absurd h List.not_mem_nil) hconditions

end Check

end ProfileFilter
