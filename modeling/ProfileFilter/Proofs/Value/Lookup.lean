import ProfileFilter.Value.Basic

/-!
# Looking up entries

A value that is filed under a text key is found under it, and nothing else is found elsewhere.
The first half needs that no text stands twice among the keys: a value is filed in place of the
first entry of a key, and looked up in the last.
-/

namespace ProfileFilter

namespace Value

/-- No text is the key of two entries. -/
def HasDistinctKeys (entries : Entries) : Prop :=
  entries.Pairwise fun a b => ∀ t, a.1 = .text t → b.1 ≠ .text t

variable {key other : Text} {v : Value} {entries : Entries}

theorem HasDistinctKeys.of_nodup {entries : Entries} (h : (entries.map Prod.fst).Nodup) :
    HasDistinctKeys entries :=
  (List.pairwise_map.mp h).imp fun hne _ hkey hother => hne (hkey.trans hother.symm)

theorem lookup?_cons (key : Text) (entry : Value × Value) (rest : Entries) :
    lookup? key (entry :: rest) =
      (lookup? key rest).or (if entry.1 = .text key then some entry.2 else none) := by
  obtain ⟨k, v⟩ := entry
  simp only [lookup?]
  cases lookup? key rest with
  | some found => rfl
  | none =>
    cases k with
    | text t => simp
    | _ => rfl

theorem lookup?_eq_none_of_ne (h : ∀ entry ∈ entries, entry.1 ≠ .text key) :
    lookup? key entries = none := by
  induction entries with
  | nil => rfl
  | cons entry rest ih =>
    rw [lookup?_cons, ih fun e he => h e (List.mem_cons_of_mem _ he),
      if_neg (h entry List.mem_cons_self), Option.none_or]

/-- Filing a value changes nothing under other keys. -/
theorem lookup?_insert_of_ne (hne : other ≠ key) (v : Value) (entries : Entries) :
    lookup? other (insert key v entries) = lookup? other entries := by
  have htext : (Value.text key) ≠ .text other := fun h => hne (Value.text.inj h).symm
  induction entries with
  | nil => rw [insert, lookup?_cons, if_neg htext, Option.or_none]
  | cons entry rest ih =>
    obtain ⟨k, w⟩ := entry
    rw [insert]
    split
    · next hk =>
      obtain rfl := eq_of_beq hk
      rw [lookup?_cons, lookup?_cons, if_neg htext, if_neg htext]
    · rw [lookup?_cons, lookup?_cons, ih]

/-- The keys after filing a value are those before, and its own. -/
theorem mem_insert {entry : Value × Value} (h : entry ∈ insert key v entries) :
    entry = (.text key, v) ∨ entry ∈ entries := by
  induction entries with
  | nil => exact .inl (List.mem_singleton.mp h)
  | cons first rest ih =>
    obtain ⟨k, w⟩ := first
    rw [insert] at h
    split at h
    · next hk =>
      obtain rfl := eq_of_beq hk
      exact (List.mem_cons.mp h).imp id (List.mem_cons_of_mem _)
    · rcases List.mem_cons.mp h with rfl | h
      · exact .inr List.mem_cons_self
      · exact (ih h).imp id (List.mem_cons_of_mem _)

theorem HasDistinctKeys.insert (h : HasDistinctKeys entries) (key : Text) (v : Value) :
    HasDistinctKeys (insert key v entries) := by
  induction entries with
  | nil => exact List.pairwise_singleton _ _
  | cons entry rest ih =>
    obtain ⟨k, w⟩ := entry
    obtain ⟨hfirst, hrest⟩ := List.pairwise_cons.mp h
    rw [Value.insert]
    split
    · exact List.pairwise_cons.mpr ⟨hfirst, hrest⟩
    · next hk =>
      refine List.pairwise_cons.mpr ⟨fun b hb t ht => ?_, ih hrest⟩
      rcases mem_insert hb with rfl | hb
      · rintro hkey
        exact hk (beq_iff_eq.mpr (ht.trans hkey.symm))
      · exact hfirst b hb t ht

/-- A value that is filed is found. -/
theorem lookup?_insert_self (h : HasDistinctKeys entries) (key : Text) (v : Value) :
    lookup? key (insert key v entries) = some v := by
  induction entries with
  | nil => rw [Value.insert, lookup?_cons, if_pos rfl]; rfl
  | cons entry rest ih =>
    obtain ⟨k, w⟩ := entry
    obtain ⟨hfirst, hrest⟩ := List.pairwise_cons.mp h
    rw [Value.insert]
    split
    · next hk =>
      obtain rfl := eq_of_beq hk
      have hnone : lookup? key rest = none :=
        lookup?_eq_none_of_ne fun e he => hfirst e he key rfl
      rw [lookup?_cons, if_pos rfl, hnone, Option.none_or]
    · rw [lookup?_cons, ih hrest, Option.some_or]

end Value

end ProfileFilter
