import ProfileFilter.Compile.Filter
import ProfileFilter.Proofs.Text.Encodable
import Mathlib.Data.List.Forall2

/-!
# The shape of compact JSON

Inversion lemmas for the compact printer: what a successful run on a list, on the items
of a list and on a mapping of one entry printed. Filter documents are made of exactly
these shapes around the values people entered, so no later module unfolds the printer to
reason about a node.
-/

namespace ProfileFilter

/-- A run of two steps succeeds exactly if both steps do. -/
theorem bind_eq_ok {ε α β : Type} {x : Except ε α} {f : α → Except ε β} {b : β} :
    (x >>= f) = .ok b ↔ ∃ a, x = .ok a ∧ f a = .ok b := by
  cases x <;> simp [bind, Except.bind]

/-- A run of two steps fails exactly if the first step does, or the second after it. -/
theorem bind_eq_error {ε α β : Type} {x : Except ε α} {f : α → Except ε β} {e : ε} :
    (x >>= f) = .error e ↔ x = .error e ∨ ∃ a, x = .ok a ∧ f a = .error e := by
  cases x <;> simp [bind, Except.bind]

/-- Working on the result of a run does not change whether it fails. -/
theorem bind_pure_eq_error {ε α β : Type} {x : Except ε α} {f : α → β} {e : ε} :
    (x >>= fun a => pure (f a)) = .error e ↔ x = .error e := by
  cases x <;> simp [bind, Except.bind, pure, Except.pure]

@[simp] theorem pure_eq_ok {ε α : Type} {a b : α} :
    (pure a : Except ε α) = .ok b ↔ a = b := by
  simp [pure, Except.pure]

/-- A run whose result is known in part was successful. -/
theorem exists_of_map_toOption {ε α β : Type} {x : Except ε α} {f : α → β} {b : β}
    (h : x.toOption.map f = some b) : ∃ a, x = .ok a ∧ f a = b := by
  cases x with
  | error e => cases h
  | ok a => exact ⟨a, rfl, Option.some.inj h⟩

namespace Json

variable {rule : NumberRule}

theorem compactWith_list_eq_ok {items : List Value} {s : Text} :
    compactWith rule (.list items) = .ok s ↔
      ∃ texts, compactItems rule items = .ok texts ∧
        s = 0x5B :: (Text.join [0x2C] texts ++ [0x5D]) := by
  simp only [compactWith, bind_eq_ok, pure_eq_ok]
  exact exists_congr fun _ => and_congr_right fun _ => eq_comm

theorem compactWith_tuple (items : List Value) :
    compactWith rule (.tuple items) = compactWith rule (.list items) := by
  rw [compactWith, compactWith]

theorem compactWith_mapping_eq_ok {entries : Entries} {s : Text} :
    compactWith rule (.mapping entries) = .ok s ↔
      ∃ texts, compactEntries rule entries = .ok texts ∧
        s = 0x7B :: (Text.join [0x2C] texts ++ [0x7D]) := by
  simp only [compactWith, bind_eq_ok, pure_eq_ok]
  exact exists_congr fun _ => and_congr_right fun _ => eq_comm

theorem compactItems_cons_eq_ok {v : Value} {rest : List Value} {texts : List Text} :
    compactItems rule (v :: rest) = .ok texts ↔
      ∃ first others, compactWith rule v = .ok first ∧ compactItems rule rest = .ok others ∧
        texts = first :: others := by
  simp only [compactItems, bind_eq_ok, pure_eq_ok]
  constructor
  · rintro ⟨first, hfirst, others, hothers, rfl⟩
    exact ⟨first, others, hfirst, hothers, rfl⟩
  · rintro ⟨first, others, hfirst, hothers, rfl⟩
    exact ⟨first, hfirst, others, hothers, rfl⟩

theorem compactEntries_cons_eq_ok {k v : Value} {rest : Entries} {texts : List Text} :
    compactEntries rule ((k, v) :: rest) = .ok texts ↔
      ∃ key value others, keyText rule k = .ok key ∧ compactWith rule v = .ok value ∧
        compactEntries rule rest = .ok others ∧
        texts = (string key ++ 0x3A :: value) :: others := by
  simp only [compactEntries, bind_eq_ok, pure_eq_ok]
  constructor
  · rintro ⟨key, hkey, value, hvalue, others, hothers, rfl⟩
    refine ⟨key, value, others, hkey, hvalue, hothers, ?_⟩
    rw [List.append_assoc]
    rfl
  · rintro ⟨key, value, others, hkey, hvalue, hothers, rfl⟩
    refine ⟨key, hkey, value, hvalue, others, hothers, ?_⟩
    rw [List.append_assoc]
    rfl

/-- The items of a list are printed one by one. -/
theorem compactItems_eq_ok_iff {items : List Value} {texts : List Text} :
    compactItems rule items = .ok texts ↔
      List.Forall₂ (fun v s => compactWith rule v = .ok s) items texts := by
  induction items generalizing texts with
  | nil =>
    rw [List.forall₂_nil_left_iff, compactItems, Except.ok.injEq]
    exact eq_comm
  | cons v rest ih =>
    rw [compactItems_cons_eq_ok, List.forall₂_cons_left_iff]
    constructor
    · rintro ⟨first, others, hfirst, hothers, rfl⟩
      exact ⟨first, others, hfirst, ih.mp hothers, rfl⟩
    · rintro ⟨first, others, hfirst, hothers, rfl⟩
      exact ⟨first, others, hfirst, ih.mpr hothers, rfl⟩

/-- **A single entry** prints as its key, a colon and its value between braces. -/
theorem compactWith_single_eq_ok {key : Text} {v : Value} {s : Text} :
    compactWith rule (single key v) = .ok s ↔
      ∃ value, compactWith rule v = .ok value ∧
        s = 0x7B :: (string key ++ 0x3A :: value ++ [0x7D]) := by
  rw [single, compactWith_mapping_eq_ok]
  constructor
  · rintro ⟨texts, htexts, rfl⟩
    obtain ⟨key', value, others, hkey, hvalue, hothers, rfl⟩ := compactEntries_cons_eq_ok.mp htexts
    cases hkey
    cases hothers
    exact ⟨value, hvalue, rfl⟩
  · rintro ⟨value, hvalue, rfl⟩
    exact ⟨_, compactEntries_cons_eq_ok.mpr ⟨key, value, [], rfl, hvalue, rfl, rfl⟩, rfl⟩

end Json

end ProfileFilter
