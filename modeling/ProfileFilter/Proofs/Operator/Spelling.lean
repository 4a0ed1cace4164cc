import ProfileFilter.Proofs.Compile.NodeText
import ProfileFilter.Proofs.Text.Trimming

/-!
# Spellings of operators

An operator of the catalog can be written with or without the marker and with any blanks
around it. `OperatorCode.IsSpelledBy` says so without the reader, and the reader finds exactly
these spellings (`findOperator?_eq_some_iff`). Any other spelling that is not blank stands for
itself.
-/

namespace ProfileFilter

/-! ## The operators of the catalog -/

namespace OperatorCode

/-- The text spells the operator: its code between blanks, with or without the marker. -/
def IsSpelledBy (op : OperatorCode) (t : Text) : Prop :=
  ∃ before after : Text, before.AllBlank ∧ after.AllBlank ∧
    (t = before ++ op.code ++ after ∨ t = before ++ (op.code : Text).tail ++ after)

end OperatorCode

/-- Only what is left of a spelling when it is trimmed counts. -/
theorem canonicalOperator_congr {t u : Text} (h : t.trim = u.trim) :
    canonicalOperator t = canonicalOperator u := by
  rw [canonicalOperator, h, canonicalOperator]

/-- A spelling is no operator exactly if it is blank. -/
theorem canonicalOperator_eq_none_iff {t : Text} : canonicalOperator t = none ↔ t.AllBlank := by
  rw [← Text.trim_eq_nil_iff, canonicalOperator]
  split
  · next h => exact iff_of_true rfl h
  · next c rest h =>
    rw [h]
    refine iff_of_false ?_ (List.cons_ne_nil c rest)
    split_ifs <;> exact fun hnone => by cases hnone

/-- Is an operator written: is there a spelling that is not blank? -/
def IsWritten (operator : Option Text) : Prop := ∃ t, operator = some t ∧ ¬ t.AllBlank

theorem isSome_canonicalOperator?_iff {operator : Option Text} :
    (canonicalOperator? operator).isSome = true ↔ IsWritten operator := by
  cases operator with
  | none => exact iff_of_false (fun h => by cases h) fun ⟨t, ht, _⟩ => by cases ht
  | some t =>
    have hblank : canonicalOperator t ≠ none ↔ ¬ t.AllBlank := canonicalOperator_eq_none_iff.not
    rw [canonicalOperator?, Option.bind_some, Option.isSome_iff_ne_none, hblank]
    exact ⟨fun h => ⟨t, rfl, h⟩, fun ⟨u, hu, h⟩ => Option.some.inj hu ▸ h⟩

/-- **The reader finds exactly the spellings of an operator.** -/
theorem findOperator?_eq_some_iff {t : Text} {op : OperatorCode} :
    findOperator? (some t) = some op ↔ op.IsSpelledBy t := by
  constructor
  · intro h
    have hcode : canonicalOperator t = some (op.code : Text) := canonicalOperator?_eq h
    obtain ⟨u, v, hu, hv, ht⟩ := t.exists_eq_append_trim
    refine ⟨u, v, hu, hv, ?_⟩
    unfold canonicalOperator at hcode
    split at hcode
    · cases hcode
    · next c rest htrim =>
      rw [htrim] at ht
      split_ifs at hcode
      -- the marker is missing
      · rw [← Option.some.inj hcode]
        exact .inr ht
      · rw [← Option.some.inj hcode]
        exact .inl ht
  · have hcode : ∀ word : Text, canonicalOperator word = some (op.code : Text) →
        ∀ u v : Text, u.AllBlank → v.AllBlank → findOperator? (some (u ++ word ++ v)) = some op := by
      intro word hword u v hu hv
      have hread : canonicalOperator (u ++ word ++ v) = some (op.code : Text) :=
        (canonicalOperator_congr (Text.trim_append_blanks hu hv word)).trans hword
      rw [findOperator?, canonicalOperator?, Option.bind_some, hread, Option.bind_some,
        OperatorCode.ofCode?_code]
    rintro ⟨u, v, hu, hv, rfl | rfl⟩
    · refine hcode _ ?_ u v hu hv
      cases op <;> rfl
    · refine hcode _ ?_ u v hu hv
      cases op <;> rfl

end ProfileFilter
