import ProfileFilter.Proofs.Value.Lookup
import ProfileFilter.Settings.Reference

/-!
# What references refer to

What a document becomes when its references are replaced depends on the variables that the
references name, and on no others. The references are the ones that are replaced: one that is
written inside the default of another is a part of that default.

Main statement: `expand_congr`.
-/

namespace ProfileFilter

namespace Reference

/-- The references of a text that are replaced, after passing over the rest of the one before. -/
def foundFrom : (pass : Nat) → Text → List Found
  | _, [] => []
  | pass + 1, _ :: rest => foundFrom pass rest
  | 0, c :: rest =>
    match atFront? (c :: rest) with
    | some found => found :: foundFrom (found.length - 1) rest
    | none => foundFrom 0 rest

mutual

/-- The variables that the references in the texts of a document name. -/
def referred : Value → List Text
  | .text t => (foundFrom 0 t).map Found.name
  | .list items => referredAll items
  | .mapping entries => referredEntries entries
  | _ => []

/-- The variables that several documents name. -/
def referredAll : List Value → List Text
  | [] => []
  | v :: rest => referred v ++ referredAll rest

/-- The variables that the values of several entries name. -/
def referredEntries : List (Value × Value) → List Text
  | [] => []
  | (_, v) :: rest => referred v ++ referredEntries rest

end

variable {environment environment' : Environment}

theorem Found.value_congr {found : Found}
    (h : environment.lookup found.name = environment'.lookup found.name) :
    found.value environment = found.value environment' := by
  rw [Found.value, Found.value, h]

theorem resolveFrom_congr (pass : Nat) (t : Text)
    (h : ∀ found ∈ foundFrom pass t,
      environment.lookup found.name = environment'.lookup found.name) :
    resolveFrom environment pass t = resolveFrom environment' pass t := by
  induction t generalizing pass with
  | nil => cases pass <;> rfl
  | cons c rest ih =>
    cases pass with
    | succ pass => exact ih pass h
    | zero =>
      rw [foundFrom] at h
      rw [resolveFrom, resolveFrom]
      cases hfront : atFront? (c :: rest) with
      | none =>
        simp only [hfront] at h ⊢
        rw [ih 0 h]
      | some found =>
        simp only [hfront, List.forall_mem_cons] at h ⊢
        rw [Found.value_congr h.1, ih _ h.2]

mutual

/-- **What a document becomes depends on the variables that it names.** -/
theorem expand_congr : ∀ (v : Value),
    (∀ name ∈ referred v, environment.lookup name = environment'.lookup name) →
      expand environment v = expand environment' v
  | .text t, h => by
    rw [expand, expand, resolve, resolve,
      resolveFrom_congr 0 t fun found hfound => h _ (List.mem_map_of_mem hfound)]
  | .list items, h => by rw [expand, expand, expandAll_congr items h]
  | .mapping entries, h => by rw [expand, expand, expandEntries_congr entries h]
  | .null, _ | .bool _, _ | .int _, _ | .float _, _ | .date _, _ | .dateTime _, _ | .tuple _, _ => by
    simp only [expand]

theorem expandAll_congr : ∀ (items : List Value),
    (∀ name ∈ referredAll items, environment.lookup name = environment'.lookup name) →
      expandAll environment items = expandAll environment' items
  | [], _ => rfl
  | v :: rest, h => by
    obtain ⟨hv, hrest⟩ := List.forall_mem_append.mp h
    rw [expandAll, expandAll, expand_congr v hv, expandAll_congr rest hrest]

theorem expandEntries_congr : ∀ (entries : Entries),
    (∀ name ∈ referredEntries entries, environment.lookup name = environment'.lookup name) →
      expandEntries environment entries = expandEntries environment' entries
  | [], _ => rfl
  | (_, v) :: rest, h => by
    obtain ⟨hv, hrest⟩ := List.forall_mem_append.mp h
    rw [expandEntries, expandEntries, expand_congr v hv, expandEntries_congr rest hrest]

end

/-- A reference that is written inside the default of another is not replaced. -/
example : referred (.text "$\x7bA:-$\x7bB\x7d\x7d") = [("A" : Text)] := by decide

/-! ## Entries -/

/-- The entries are expanded one by one, under the same keys. -/
theorem expandEntries_eq_map (environment : Environment) (entries : Entries) :
    expandEntries environment entries =
      entries.map fun entry => (entry.1, expand environment entry.2) := by
  induction entries with
  | nil => rfl
  | cons entry rest ih => rw [expandEntries, ih, List.map_cons]

theorem lookup?_expandEntries (environment : Environment) (key : Text) (entries : Entries) :
    Value.lookup? key (expandEntries environment entries) =
      (Value.lookup? key entries).map (expand environment) := by
  induction entries with
  | nil => rfl
  | cons entry rest ih =>
    rw [expandEntries, Value.lookup?_cons, Value.lookup?_cons, ih]
    cases Value.lookup? key rest with
    | some found => rfl
    | none =>
      rw [Option.map_none, Option.none_or, Option.none_or]
      split <;> rfl

theorem hasDistinctKeys_expandEntries (environment : Environment) {entries : Entries}
    (h : Value.HasDistinctKeys entries) :
    Value.HasDistinctKeys (expandEntries environment entries) := by
  rw [expandEntries_eq_map]
  exact List.pairwise_map.mpr h

end Reference

end ProfileFilter
