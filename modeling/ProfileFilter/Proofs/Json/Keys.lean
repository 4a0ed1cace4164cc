import ProfileFilter.Proofs.Compile.Hereditary
import ProfileFilter.Proofs.Json.Invariant

/-!
# Keys that JSON has a form for

A JSON key is a text; numbers, truth values and null have a text they become as a key, and
nothing else has. A value whose mappings have only such keys, at every depth, is never
refused for its keys, though numbers in it may be.

Main statements: nothing is refused for such keys (`compactWith_ne_error_key`), and all that
is read from JSON has them (`hasJsonKeys_of_parse`).
-/

namespace ProfileFilter

namespace Value

/-- Does JSON have a form for the value as a key? -/
def isJsonKey : Value → Bool
  | .text _ | .int _ | .float _ | .bool _ | .null => true
  | _ => false

mutual

/-- Do all mappings in the value have only keys that JSON has a form for? -/
def hasJsonKeys : Value → Bool
  | .list items | .tuple items => haveJsonKeys items
  | .mapping entries => entriesHaveJsonKeys entries
  | _ => true

/-- Do all mappings in the items have such keys? -/
def haveJsonKeys : List Value → Bool
  | [] => true
  | v :: rest => hasJsonKeys v && haveJsonKeys rest

/-- Are the keys of all entries such keys, and do the mappings in their values have them? -/
def entriesHaveJsonKeys : List (Value × Value) → Bool
  | [] => true
  | (k, v) :: rest => isJsonKey k && hasJsonKeys v && entriesHaveJsonKeys rest

end

theorem haveJsonKeys_iff {items : List Value} :
    haveJsonKeys items = true ↔ ∀ v ∈ items, v.hasJsonKeys = true := by
  induction items with
  | nil => exact iff_of_true rfl fun _ h => absurd h List.not_mem_nil
  | cons v rest ih => rw [haveJsonKeys, Bool.and_eq_true, ih, List.forall_mem_cons]

theorem entriesHaveJsonKeys_iff {entries : Entries} :
    entriesHaveJsonKeys entries = true ↔
      ∀ e ∈ entries, e.1.isJsonKey = true ∧ e.2.hasJsonKeys = true := by
  induction entries with
  | nil => exact iff_of_true rfl fun _ h => absurd h List.not_mem_nil
  | cons e rest ih =>
    rw [entriesHaveJsonKeys, Bool.and_eq_true, Bool.and_eq_true, ih, List.forall_mem_cons]

/-- Nodes have JSON keys if the values of their condition have. -/
theorem isHereditary_hasJsonKeys : IsHereditary fun v => v.hasJsonKeys = true where
  text _ := rfl
  int _ := rfl
  float _ := rfl
  bool _ := rfl
  list := haveJsonKeys_iff
  tuple := haveJsonKeys_iff.mp
  single _ _ h := by
    rw [single, hasJsonKeys, entriesHaveJsonKeys, h]
    rfl

end Value

namespace Json

open Value

variable {rule : NumberRule}

theorem integerToken_ne_error_key (n : Int) : integerToken n ≠ .error .key := by
  unfold integerToken
  split_ifs <;> exact fun h => by cases h

theorem floatToken_ne_error_key (x : Binary64) : floatToken rule x ≠ .error .key := by
  cases x with
  | nan =>
    simp only [floatToken]
    split_ifs <;> exact fun h => by cases h
  | infinite negative =>
    simp only [floatToken]
    split_ifs <;> exact fun h => by cases h
  | finite negative mantissa exponent => exact fun h => by cases h

/-- A key is refused for what it is exactly if JSON has no form for it. -/
theorem keyText_eq_error_key_iff {k : Value} :
    keyText rule k = .error .key ↔ k.isJsonKey = false := by
  cases k with
  | int n => exact iff_of_false (integerToken_ne_error_key n) (by simp [isJsonKey])
  | float x => exact iff_of_false (floatToken_ne_error_key x) (by simp [isJsonKey])
  | text t => exact iff_of_false (fun h => by cases h) (by simp [isJsonKey])
  | bool b => exact iff_of_false (fun h => by cases h) (by simp [isJsonKey])
  | null => exact iff_of_false (fun h => by cases h) (by simp [isJsonKey])
  | _ => exact iff_of_true rfl rfl

mutual

/-- **Nothing is refused for its keys** when JSON has a form for all of them. -/
theorem compactWith_ne_error_key : ∀ {v : Value},
    v.hasJsonKeys = true → compactWith rule v ≠ .error .key
  | .list items, hv, h => compactItems_ne_error_key hv (bind_pure_eq_error.mp h)
  | .tuple items, hv, h => compactItems_ne_error_key hv (bind_pure_eq_error.mp h)
  | .mapping entries, hv, h => compactEntries_ne_error_key hv (bind_pure_eq_error.mp h)
  | .int n, _, h => integerToken_ne_error_key n h
  | .float x, _, h => floatToken_ne_error_key x h
  | .null, _, h => by cases h
  | .bool _, _, h => by cases h
  | .text _, _, h => by cases h
  | .date _, _, h => by cases h
  | .dateTime _, _, h => by cases h

theorem compactItems_ne_error_key : ∀ {items : List Value},
    haveJsonKeys items = true → compactItems rule items ≠ .error .key
  | [], _, h => by cases h
  | v :: rest, hitems, h => by
    rw [haveJsonKeys, Bool.and_eq_true] at hitems
    rcases bind_eq_error.mp h with hfirst | ⟨first, -, hafter⟩
    · exact compactWith_ne_error_key hitems.1 hfirst
    exact compactItems_ne_error_key hitems.2 (bind_pure_eq_error.mp hafter)

theorem compactEntries_ne_error_key : ∀ {entries : Entries},
    entriesHaveJsonKeys entries = true → compactEntries rule entries ≠ .error .key
  | [], _, h => by cases h
  | (k, v) :: rest, hentries, h => by
    rw [entriesHaveJsonKeys, Bool.and_eq_true, Bool.and_eq_true] at hentries
    obtain ⟨⟨hkey, hvalue⟩, hrest⟩ := hentries
    rcases bind_eq_error.mp h with hk | ⟨key, -, hafterKey⟩
    · rw [keyText_eq_error_key_iff, hkey] at hk
      cases hk
    rcases bind_eq_error.mp hafterKey with hv | ⟨value, -, hafterValue⟩
    · exact compactWith_ne_error_key hvalue hv
    exact compactEntries_ne_error_key hrest (bind_pure_eq_error.mp hafterValue)

end

/-! ## Reading -/

theorem hasJsonKeys_of_scanNumber {negative : Bool} {whole t rest : Text} {v : Value}
    (h : scanNumber negative whole t = .ok (v, rest)) : v.hasJsonKeys = true := by
  simp only [scanNumber] at h
  split_ifs at h
  · obtain ⟨rfl, -⟩ := Prod.mk.inj (Except.ok.inj h)
    rfl
  · obtain ⟨rfl, -⟩ := Prod.mk.inj (Except.ok.inj h)
    rfl

theorem entriesHaveJsonKeys_insert {key : Text} {v : Value} {entries : Entries}
    (hv : v.hasJsonKeys = true) (h : entriesHaveJsonKeys entries = true) :
    entriesHaveJsonKeys (Value.insert key v entries) = true := by
  induction entries with
  | nil =>
    rw [Value.insert, entriesHaveJsonKeys, hv]
    rfl
  | cons e rest ih =>
    obtain ⟨k, w⟩ := e
    rw [entriesHaveJsonKeys, Bool.and_eq_true, Bool.and_eq_true] at h
    unfold Value.insert
    split_ifs
    · rw [entriesHaveJsonKeys, h.1.1, hv, h.2]
      rfl
    · rw [entriesHaveJsonKeys, h.1.1, h.1.2, ih h.2]
      rfl

/-- Members are filed under texts. -/
theorem hasJsonKeys_mappingOf {members : List (Text × Value)}
    (h : ∀ member ∈ members, member.2.hasJsonKeys = true) :
    (mappingOf members).hasJsonKeys = true := by
  -- over whatever entries were filed before
  have hfold : ∀ entries : Entries, entriesHaveJsonKeys entries = true →
      entriesHaveJsonKeys (members.foldl
        (fun entries member => Value.insert member.1 member.2 entries) entries) = true := by
    induction members with
    | nil => exact fun _ hentries => hentries
    | cons member rest ih =>
      obtain ⟨hmember, hrest⟩ := List.forall_mem_cons.mp h
      exact fun entries hentries => ih hrest _ (entriesHaveJsonKeys_insert hmember hentries)
  exact hfold [] rfl

theorem isReadInvariant_hasJsonKeys : IsReadInvariant fun v => v.hasJsonKeys = true where
  word := by decide
  number := hasJsonKeys_of_scanNumber
  text _ := rfl
  list := haveJsonKeys_iff.mpr
  mapping := hasJsonKeys_mappingOf

/-- **What is read from JSON has JSON keys.** -/
theorem hasJsonKeys_of_parse {t : Text} {v : Value} (h : parse t = .ok v) :
    v.hasJsonKeys = true :=
  isReadInvariant_hasJsonKeys.of_parse h

end Json

end ProfileFilter
