import Mathlib.Data.Option.Basic
import ProfileFilter.Proofs.Validate.Grant

/-!
# Documents and bodies

Where a value comes from decides how a record that is none is refused, and nothing else: a check
passes the same values of a document as of a body, and makes the same of them. Two checks that
do so *agree* (`Check.Agree`), and the checks for lists, optional values and records agree if
the checks they are made of do.

Main statement: `Check.agree_filterSet`.
-/

namespace ProfileFilter

namespace Validated

variable {α β : Type}

/-- The value, if it passed. -/
def value? : Validated α → Option α
  | .valid a => some a
  | .invalid _ => none

theorem value?_eq_some {v : Validated α} {a : α} : v.value? = some a ↔ v = .valid a := by
  cases v <;> simp [value?]

@[simp] theorem value?_map (f : α → β) (v : Validated α) : (f <$> v).value? = v.value?.map f := by
  cases v <;> rfl

@[simp] theorem value?_seq (f : Validated (α → β)) (v : Validated α) :
    (f <*> v).value? = f.value?.bind fun g => v.value?.map g := by
  cases f <;> cases v <;> rfl

@[simp] theorem value?_within (step : Step) (v : Validated α) :
    (v.within step).value? = v.value? := by
  cases v <;> rfl

@[simp] theorem value?_under (key : Text) (v : Validated α) : (v.under key).value? = v.value? :=
  value?_within _ v

/-- Collected values pass if all of them do. -/
theorem value?_collect (vs : List (Validated α)) :
    (collect vs).value? = (vs.map value?).mapM id := by
  induction vs with
  | nil => rfl
  | cons v rest ih =>
    rw [collect, value?_seq, value?_map, ih, List.map_cons, List.mapM_cons]
    cases v.value? with
    | none => rfl
    | some a => cases (rest.map value?).mapM id <;> rfl

end Validated

namespace Check

variable {α : Type} {check check' : Value → Validated α}

/-- The checks pass the same values and make the same of them. -/
def Agree (check check' : Value → Validated α) : Prop :=
  ∀ v, (check v).value? = (check' v).value?

theorem Agree.valid_iff (h : Agree check check') {v : Value} {a : α} :
    check v = .valid a ↔ check' v = .valid a := by
  rw [← Validated.value?_eq_some, ← Validated.value?_eq_some, h v]

theorem Agree.nullable (h : Agree check check') : Agree (nullable check) (nullable check') := by
  intro v
  cases v with
  | null => rfl
  | _ =>
    show (some <$> check _).value? = (some <$> check' _).value?
    rw [Validated.value?_map, Validated.value?_map, h]

/-- A list passes if all of its elements do. -/
theorem value?_list (check : Value → Validated α) (items : List Value) :
    (list check (.list items)).value? = items.mapM fun item => (check item).value? := by
  have hmap : (items.mapIdx fun n item => (check item).within (.index n)).map Validated.value? =
      items.map fun item => (check item).value? := by
    refine List.ext_getElem (by simp) fun n _ _ => ?_
    simp
  show (Validated.collect _).value? = _
  rw [Validated.value?_collect, hmap, List.mapM_map]
  rfl

theorem Agree.list (h : Agree check check') : Agree (list check) (list check') := by
  have hitems : ∀ items, (Check.list check (.list items)).value? =
      (Check.list check' (.list items)).value? := by
    intro items
    rw [value?_list, value?_list, funext h]
  intro v
  cases v with
  | list items => exact hitems items
  | tuple items => exact hitems items
  | _ => rfl

theorem Agree.mapping (h : Agree check check') : Agree (mapping check) (mapping check') := by
  intro v
  cases v with
  | mapping entries =>
    show (Validated.collect _).value? = (Validated.collect _).value?
    rw [Validated.value?_collect, Validated.value?_collect, List.map_map, List.map_map]
    congr 1
    refine List.map_congr_left fun entry _ => ?_
    simp [h entry.2]
  | _ => rfl

theorem Agree.optional (h : Agree check check') (keys : List Text) (default : α)
    (entries : Entries) :
    (optional keys default check entries).value? =
      (optional keys default check' entries).value? := by
  unfold Check.optional
  split
  · rw [Validated.value?_under, Validated.value?_under, h]
  · rfl

/-- Records agree if their fields do, however they refuse what is none. -/
theorem Agree.record {problem problem' : Problem} {fields fields' : Entries → Validated α}
    (h : ∀ entries, (fields entries).value? = (fields' entries).value?) :
    Agree (record problem fields) (record problem' fields') := by
  intro v
  cases v with
  | mapping entries => exact h entries
  | _ => rfl

/-! ## The checks of the domain -/

variable (source source' : Source)

theorem agree_schema : Agree (schema source) (schema source') :=
  (Agree.mapping (Agree.record fun _ => rfl)).nullable

/-- **Attributes are read alike from documents and bodies.** -/
theorem agree_profileAttribute : Agree (profileAttribute source) (profileAttribute source') :=
  Agree.record fun entries => by
    simp only [Validated.value?_seq, (agree_schema source source').optional]

theorem agree_itemCondition : Agree (itemCondition source) (itemCondition source') :=
  Agree.record fun _ => rfl

theorem agree_condition : Agree (condition source) (condition source') :=
  Agree.record fun entries => by
    simp only [Validated.value?_seq, (agree_schema source source').optional,
      (agree_itemCondition source source').list.nullable.optional]

/-- **Filter sets are read alike from documents and bodies.** -/
theorem agree_filterSet : Agree (filterSet source) (filterSet source') :=
  Agree.record fun entries => by
    simp only [Validated.value?_seq, Validated.value?_map,
      (agree_condition source source').list.optional]

end Check

end ProfileFilter
