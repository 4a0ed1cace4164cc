import ProfileFilter.Condition.Coercion
import ProfileFilter.Proofs.Operator.Spelling
import ProfileFilter.Proofs.Text.Pieces

/-!
# Values for operators that take a list

A text is taken apart at its commas, a list is taken as it is; either way texts are trimmed and
blank ones dropped. So a text is worth what its two sides of a comma are worth
(`splitListValue_append`), and as much as the list of its parts (`splitListValue_join`).

A coercion never makes a text: one that is left over could not be read, and was trimmed before.
So what has been coerced stays as it is when it is coerced again, with or without a list.

Main statement: `coerceValue_pieces`.
-/

namespace ProfileFilter

/-! ## Pieces -/

theorem Value.isText_or (v : Value) : (∃ t, v = .text t) ∨ ∀ t, v ≠ .text t := by
  cases v with
  | text t => exact .inl ⟨t, rfl⟩
  | _ => exact .inr fun t h => by cases h

theorem trimPiece?_text {t : Text} (h : t.trim ≠ []) :
    trimPiece? (.text t) = some (.text t.trim) :=
  if_neg (by simpa using h)

theorem trimPiece?_of_ne_text {v : Value} (h : ∀ t, v ≠ .text t) : trimPiece? v = some v := by
  cases v with
  | text t => exact absurd rfl (h t)
  | _ => rfl

/-- A piece that is a text is trimmed and not blank. -/
theorem of_trimPiece?_eq_text {v : Value} {u : Text} (h : trimPiece? v = some (.text u)) :
    ∃ t, v = .text t ∧ u = t.trim ∧ u ≠ [] := by
  cases v with
  | text t =>
    simp only [trimPiece?] at h
    split_ifs at h with hblank
    cases h
    exact ⟨t, rfl, rfl, by simpa using hblank⟩
  | _ => cases h

/-- Trimming a piece again changes nothing. -/
theorem trimPiece?_idem {v piece : Value} (h : trimPiece? v = some piece) :
    trimPiece? piece = some piece := by
  rcases piece.isText_or with ⟨u, rfl⟩ | hother
  · obtain ⟨t, -, rfl, hne⟩ := of_trimPiece?_eq_text h
    rw [trimPiece?_text (by rwa [Text.trim_trim]), Text.trim_trim]
  · exact trimPiece?_of_ne_text hother

theorem trimPiece?_of_mem_splitListValue {v piece : Value} (h : piece ∈ splitListValue v) :
    trimPiece? piece = some piece := by
  have hpieces : ∀ {items : List Value}, piece ∈ items.filterMap trimPiece? →
      trimPiece? piece = some piece := by
    intro items hmem
    obtain ⟨w, -, hw⟩ := List.mem_filterMap.mp hmem
    exact trimPiece?_idem hw
  cases v with
  | null => cases h
  | text t => exact hpieces h
  | list items => exact hpieces h
  | tuple items => exact hpieces h
  | _ =>
    rw [List.mem_singleton.mp h]
    rfl

/-- **A text is worth what its two sides of a comma are worth.** -/
theorem splitListValue_append (a b : Text) :
    splitListValue (.text (a ++ (',' : CodePoint) :: b)) =
      splitListValue (.text a) ++ splitListValue (.text b) := by
  simp only [splitListValue, Text.splitOn_append, List.map_append, List.filterMap_append]

/-- **A text is worth as much as the list of its parts** between the commas. -/
theorem splitListValue_join {ps : List Text} (h : ∀ p ∈ ps, (',' : CodePoint) ∉ p) :
    splitListValue (.text (Text.join "," ps)) = splitListValue (.list (ps.map Value.text)) := by
  rcases eq_or_ne ps [] with rfl | hne
  · rfl
  · have hsplit : (Text.join "," ps).splitOn ',' = ps := Text.splitOn_join hne h
    simp only [splitListValue, hsplit]

/-- A text among the pieces of a text is a part of it between commas, without the blanks around
it, and not blank. -/
theorem of_text_mem_splitListValue {t u : Text} (h : .text u ∈ splitListValue (.text t)) :
    u ≠ [] ∧ u.trim = u ∧ (',' : CodePoint) ∉ u := by
  obtain ⟨w, hw, hpiece⟩ := List.mem_filterMap.mp h
  obtain ⟨part, hpart, rfl⟩ := List.mem_map.mp hw
  obtain ⟨t', ht', rfl, hne⟩ := of_trimPiece?_eq_text hpiece
  cases ht'
  exact ⟨hne, Text.trim_trim part, fun hcomma =>
    Text.notMem_of_mem_splitOn hpart (Text.mem_of_mem_trim hcomma)⟩

/-! ## Coercion of one value -/

/-- What is read from a text is no text. -/
theorem readAs?_ne_text {type : AttributeType} {t u : Text} : readAs? type t ≠ some (.text u) := by
  cases type <;> simp [readAs?]

/-- **A coercion never makes a text**: one that comes out went in. -/
theorem eq_of_coerceScalar_eq_text {type : Option AttributeType} {v : Value} {u : Text}
    (h : coerceScalar type v = .text u) : v = .text u := by
  unfold coerceScalar at h
  split at h
  · next type t =>
    cases hread : readAs? type t with
    | none =>
      rw [hread] at h
      exact h
    | some w =>
      rw [hread, Option.getD_some] at h
      exact absurd (h ▸ hread) readAs?_ne_text
  · exact h

theorem coerceScalar_of_ne_text {type : Option AttributeType} {v : Value} (h : ∀ t, v ≠ .text t) :
    coerceScalar type v = v := by
  unfold coerceScalar
  split
  · next type t => exact absurd rfl (h t)
  · rfl

theorem coerceScalar_coerceScalar (type : Option AttributeType) (v : Value) :
    coerceScalar type (coerceScalar type v) = coerceScalar type v := by
  rcases (coerceScalar type v).isText_or with ⟨u, hu⟩ | hother
  · obtain rfl := eq_of_coerceScalar_eq_text hu
    rw [hu, hu]
  · exact coerceScalar_of_ne_text hother

/-! ## Coercion of a value for an operator -/

theorem takesList_of_isSpelledBy {spelling : Text} (h : OperatorCode.oneOf.IsSpelledBy spelling ∨
    OperatorCode.noneOf.IsSpelledBy spelling) : takesList spelling = true := by
  rcases h with h | h <;> rw [takesList, findOperator?_eq_some_iff.mpr h] <;> rfl

section TakesList

variable {type : Option AttributeType} {operator : Option Text}

theorem coerceValue_of_takesList (h : takesList operator = true) (v : Value) :
    coerceValue type operator v = .list ((splitListValue v).map (coerceScalar type)) :=
  if_pos h

theorem coerceValue_of_not_takesList (h : takesList operator = false) (v : Value) :
    coerceValue type operator v = coerceScalar type v :=
  if_neg (by simp [h])

/-- Coerced pieces are pieces as they are. -/
theorem splitListValue_coerced (v : Value) :
    splitListValue (.list ((splitListValue v).map (coerceScalar type))) =
      (splitListValue v).map (coerceScalar type) := by
  have hkept : ∀ piece ∈ splitListValue v,
      trimPiece? (coerceScalar type piece) = some (coerceScalar type piece) := by
    intro piece hpiece
    rcases (coerceScalar type piece).isText_or with ⟨u, hu⟩ | hother
    · rw [hu, ← eq_of_coerceScalar_eq_text hu]
      exact trimPiece?_of_mem_splitListValue hpiece
    · exact trimPiece?_of_ne_text hother
  rw [splitListValue, List.filterMap_map]
  calc (splitListValue v).filterMap (trimPiece? ∘ coerceScalar type)
    _ = (splitListValue v).filterMap (some ∘ coerceScalar type) := List.filterMap_congr hkept
    _ = (splitListValue v).map (coerceScalar type) := by rw [List.filterMap_eq_map]

/-- **What has been coerced stays as it is.** -/
theorem coerceValue_coerceValue (type : Option AttributeType) (operator : Option Text) (v : Value) :
    coerceValue type operator (coerceValue type operator v) = coerceValue type operator v := by
  cases h : takesList operator with
  | true =>
    rw [coerceValue_of_takesList h v, coerceValue_of_takesList h, splitListValue_coerced,
      List.map_map]
    congr 1
    exact List.map_congr_left fun piece _ => coerceScalar_coerceScalar type piece
  | false =>
    rw [coerceValue_of_not_takesList h v, coerceValue_of_not_takesList h,
      coerceScalar_coerceScalar]

end TakesList

/-- **How the values of a list are coerced.** With an operator that takes a list, in whatever
spelling, a text comes to what its two sides of a comma come to, one after the other; texts without
a comma come to the same joined by commas as in a list; and a text that is left over in what comes
of a text is not empty, trimmed and without a comma. With any operator, what has been coerced stays
as it is when it is coerced again. -/
theorem coerceValue_pieces (type : Option AttributeType) :
    (∀ spelling : Text,
      OperatorCode.oneOf.IsSpelledBy spelling ∨ OperatorCode.noneOf.IsSpelledBy spelling →
        (∀ a b : Text, ∃ as bs, coerceValue type spelling (.text a) = .list as ∧
          coerceValue type spelling (.text b) = .list bs ∧
          coerceValue type spelling (.text (a ++ (',' : CodePoint) :: b)) = .list (as ++ bs)) ∧
        (∀ ps : List Text, (∀ p ∈ ps, (',' : CodePoint) ∉ p) →
          coerceValue type spelling (.text (Text.join "," ps)) =
            coerceValue type spelling (.list (ps.map Value.text))) ∧
        ∀ (t u : Text) (items : List Value), coerceValue type spelling (.text t) = .list items →
          .text u ∈ items → u ≠ [] ∧ u.trim = u ∧ (',' : CodePoint) ∉ u) ∧
      ∀ (operator : Option Text) (v : Value),
        coerceValue type operator (coerceValue type operator v) = coerceValue type operator v := by
  refine ⟨fun spelling hspelling => ?_, coerceValue_coerceValue type⟩
  have hlist := takesList_of_isSpelledBy hspelling
  simp only [coerceValue_of_takesList hlist]
  refine ⟨fun a b => ⟨_, _, rfl, rfl, ?_⟩, fun ps hps => ?_, fun t u items hitems hu => ?_⟩
  · rw [splitListValue_append, List.map_append]
  · rw [splitListValue_join hps]
  · cases hitems
    obtain ⟨piece, hpiece, hcoerced⟩ := List.mem_map.mp hu
    obtain rfl := eq_of_coerceScalar_eq_text hcoerced
    exact of_text_mem_splitListValue hpiece

/-- A spelling with blanks and without the marker, and a text that spells an integer on one side
of a comma and none on the other. -/
theorem coerceValue_pieces_visits :
    OperatorCode.noneOf.IsSpelledBy " notIn\n" ∧
      (∀ p ∈ ([" 7", "", "x y "] : List Text), (',' : CodePoint) ∉ p) ∧
      coerceValue (some .integer) (" notIn\n" : Text) (.text (Text.join "," [" 7", "", "x y "])) =
        coerceValue (some .integer) (" notIn\n" : Text)
          (.list ([" 7", "", "x y "].map Value.text)) ∧
      coerceValue (some .integer) (" notIn\n" : Text) (.text " 7,,x y ") =
        .list [.int 7, .text "x y"] ∧
      ("x y" : Text) ≠ [] ∧ Text.trim "x y" = "x y" ∧ (',' : CodePoint) ∉ ("x y" : Text) := by
  have hspelling : OperatorCode.noneOf.IsSpelledBy " notIn\n" :=
    findOperator?_eq_some_iff.mp (by decide)
  have hparts : ∀ p ∈ ([" 7", "", "x y "] : List Text), (',' : CodePoint) ∉ p := by decide
  have hvalue : coerceValue (some .integer) (" notIn\n" : Text) (.text " 7,,x y ") =
      .list [.int 7, .text "x y"] := by decide +kernel
  obtain ⟨-, hjoin, hpieces⟩ := (coerceValue_pieces (some .integer)).1 _ (.inr hspelling)
  exact ⟨hspelling, hparts, hjoin _ hparts, hvalue,
    hpieces _ "x y" _ hvalue (List.mem_cons_of_mem _ List.mem_cons_self)⟩

end ProfileFilter
