import ProfileFilter.Proofs.Text.Encodable

/-!
# Taking texts apart

How a text is cut behind a head, and at a separator: at the first copy of it, at the last one, and
at all of them. A cut is determined by what it yields (`afterHead?_eq_some_iff`, `cut_eq_some_iff`,
`cutLast_eq_some_iff`), and the pieces between all copies are those texts without a copy that make
up the text (`splitOn_join`, `join_splitOn`). Writing every code point in another way keeps the
pieces apart if only the separator is written with a separator (`splitOn_flatMap`).
-/

namespace ProfileFilter

namespace Text

variable {sep : CodePoint} {t u v : Text}

/-! ## A head -/

theorem afterHead?_eq_some_iff {head : Text} : afterHead? head t = some u ↔ t = head ++ u := by
  induction head generalizing t with
  | nil => simp [afterHead?]
  | cons c head ih =>
    cases t with
    | nil => simp [afterHead?]
    | cons d t =>
      rw [afterHead?, List.cons_append, List.cons.injEq, eq_comm (a := d)]
      split_ifs with hc
      · simp [ih, beq_iff_eq.mp hc]
      · simp [beq_iff_eq.not.mp hc]

/-! ## One copy -/

theorem cut_of_notMem (h : sep ∉ t) : cut sep t = (t, none) := by
  induction t with
  | nil => rfl
  | cons c rest ih =>
    rw [List.mem_cons, not_or] at h
    rw [cut, if_neg (by simpa using Ne.symm h.1), ih h.2]

theorem cut_append_cons (h : sep ∉ t) : cut sep (t ++ sep :: u) = (t, some u) := by
  induction t with
  | nil => rw [List.nil_append, cut, if_pos (beq_self_eq_true sep)]
  | cons c rest ih =>
    rw [List.mem_cons, not_or] at h
    rw [List.cons_append, cut, if_neg (by simpa using Ne.symm h.1), ih h.2]

theorem cut_eq_none_iff : cut sep t = (u, none) ↔ u = t ∧ sep ∉ t := by
  constructor
  · intro h
    by_cases hmem : sep ∈ t
    · obtain ⟨before, after, rfl, hbefore⟩ := List.eq_append_cons_of_mem hmem
      rw [cut_append_cons hbefore] at h
      cases h
    · rw [cut_of_notMem hmem] at h
      exact ⟨(Prod.mk.inj h).1.symm, hmem⟩
  · rintro ⟨rfl, hmem⟩
    exact cut_of_notMem hmem

/-- A cut text is what is before the first copy, the copy, and what is after it. -/
theorem cut_eq_some_iff : cut sep t = (u, some v) ↔ t = u ++ sep :: v ∧ sep ∉ u := by
  constructor
  · intro h
    by_cases hmem : sep ∈ t
    · obtain ⟨before, after, rfl, hbefore⟩ := List.eq_append_cons_of_mem hmem
      rw [cut_append_cons hbefore] at h
      cases h
      exact ⟨rfl, hbefore⟩
    · rw [cut_of_notMem hmem] at h
      cases h
  · rintro ⟨rfl, hmem⟩
    exact cut_append_cons hmem

theorem mem_of_mem_cut {c : CodePoint} (h : c ∈ (cut sep t).1) : c ∈ t := by
  rcases hcut : cut sep t with ⟨before, _ | after⟩
  · rw [hcut] at h
    rwa [(cut_eq_none_iff.mp hcut).1] at h
  · rw [hcut] at h
    rw [(cut_eq_some_iff.mp hcut).1]
    exact List.mem_append_left _ h

theorem cutLast_of_notMem (h : sep ∉ t) : cutLast sep t = (none, t) := by
  rw [cutLast, cut_of_notMem (mt List.mem_reverse.mp h)]
  exact congrArg (Prod.mk none) (List.reverse_reverse t)

theorem cutLast_append_cons (h : sep ∉ u) : cutLast sep (t ++ sep :: u) = (some t, u) := by
  have hreverse : (t ++ sep :: u).reverse = u.reverse ++ sep :: t.reverse := by simp
  rw [cutLast, hreverse, cut_append_cons (mt List.mem_reverse.mp h)]
  exact Prod.ext (congrArg some (List.reverse_reverse t)) (List.reverse_reverse u)

theorem cutLast_eq_none_iff : cutLast sep t = (none, v) ↔ v = t ∧ sep ∉ t := by
  constructor
  · intro h
    by_cases hmem : sep ∈ t
    · obtain ⟨after, before, hsplit, hafter⟩ :=
        List.eq_append_cons_of_mem (List.mem_reverse.mpr hmem)
      rw [cutLast, hsplit, cut_append_cons hafter] at h
      cases h
    · rw [cutLast_of_notMem hmem] at h
      exact ⟨(Prod.mk.inj h).2.symm, hmem⟩
  · rintro ⟨rfl, hmem⟩
    exact cutLast_of_notMem hmem

/-- A text cut at the last copy is what is before it, the copy, and what is after it. -/
theorem cutLast_eq_some_iff : cutLast sep t = (some u, v) ↔ t = u ++ sep :: v ∧ sep ∉ v := by
  constructor
  · intro h
    by_cases hmem : sep ∈ t
    · obtain ⟨after, before, hsplit, hafter⟩ :=
        List.eq_append_cons_of_mem (List.mem_reverse.mpr hmem)
      rw [cutLast, hsplit, cut_append_cons hafter] at h
      cases h
      refine ⟨?_, mt List.mem_reverse.mp hafter⟩
      rw [← List.reverse_reverse t, hsplit]
      simp
    · rw [cutLast_of_notMem hmem] at h
      cases h
  · rintro ⟨rfl, hmem⟩
    exact cutLast_append_cons hmem

/-! ## All copies -/

theorem splitOn_cons_of_ne {c : CodePoint} {piece : Text} {pieces : List Text} (hc : c ≠ sep)
    (h : splitOn sep t = piece :: pieces) : splitOn sep (c :: t) = (c :: piece) :: pieces := by
  rw [splitOn, if_neg (by simpa using hc), h]

/-- The first piece is what stands in front of the first separator. -/
theorem exists_splitOn_eq_cons (sep : CodePoint) (t : Text) :
    ∃ pieces, t.splitOn sep = t.takeWhile (fun c => !(c == sep)) :: pieces := by
  induction t with
  | nil => exact ⟨[], rfl⟩
  | cons c rest ih =>
    obtain ⟨pieces, hrest⟩ := ih
    by_cases hc : c = sep
    · subst hc
      exact ⟨Text.splitOn c rest, by simp [splitOn]⟩
    · rw [splitOn_cons_of_ne hc hrest, List.takeWhile_cons_of_pos (by simpa using hc)]
      exact ⟨pieces, rfl⟩

theorem splitOn_of_notMem (h : sep ∉ t) : t.splitOn sep = [t] := by
  induction t with
  | nil => rfl
  | cons c rest ih =>
    rw [List.mem_cons, not_or] at h
    exact splitOn_cons_of_ne (Ne.symm h.1) (ih h.2)

/-- The pieces before a copy and those after it. -/
theorem splitOn_append (sep : CodePoint) (t u : Text) :
    splitOn sep (t ++ sep :: u) = splitOn sep t ++ splitOn sep u := by
  induction t with
  | nil => exact if_pos (beq_self_eq_true sep)
  | cons c rest ih =>
    obtain ⟨piece, pieces, hrest⟩ := List.exists_cons_of_ne_nil (splitOn_ne_nil sep rest)
    rw [hrest, List.cons_append] at ih
    rw [List.cons_append]
    by_cases hc : c = sep
    · rw [splitOn, if_pos (beq_iff_eq.mpr hc), splitOn, if_pos (beq_iff_eq.mpr hc), ih, hrest]
      rfl
    · rw [splitOn_cons_of_ne hc ih, splitOn_cons_of_ne hc hrest, List.cons_append]

theorem splitOn_append_cons (h : sep ∉ t) :
    splitOn sep (t ++ sep :: u) = t :: splitOn sep u := by
  rw [splitOn_append, splitOn_of_notMem h, List.singleton_append]

theorem notMem_of_mem_splitOn (h : u ∈ splitOn sep t) : sep ∉ u := by
  induction t generalizing u with
  | nil =>
    rw [List.mem_singleton.mp h]
    exact List.not_mem_nil
  | cons c rest ih =>
    obtain ⟨piece, pieces, hrest⟩ := List.exists_cons_of_ne_nil (splitOn_ne_nil sep rest)
    rw [hrest] at ih
    by_cases hc : c = sep
    · rw [splitOn, if_pos (beq_iff_eq.mpr hc), hrest] at h
      rcases List.mem_cons.mp h with rfl | h
      · exact List.not_mem_nil
      · exact ih h
    · rw [splitOn_cons_of_ne hc hrest] at h
      rcases List.mem_cons.mp h with rfl | h
      · rw [List.mem_cons, not_or]
        exact ⟨Ne.symm hc, ih List.mem_cons_self⟩
      · exact ih (List.mem_cons_of_mem _ h)

/-- Texts without a copy are the pieces of what they make up. -/
theorem splitOn_join {ts : List Text} (hne : ts ≠ []) (h : ∀ t ∈ ts, sep ∉ t) :
    splitOn sep (join [sep] ts) = ts := by
  induction ts with
  | nil => exact absurd rfl hne
  | cons t rest ih =>
    obtain ⟨ht, hrest⟩ := List.forall_mem_cons.mp h
    cases rest with
    | nil => exact splitOn_of_notMem ht
    | cons u rest =>
      rw [join_cons_cons, List.append_assoc, List.singleton_append, splitOn_append_cons ht,
        ih (List.cons_ne_nil u rest) hrest]

theorem mem_join {c : CodePoint} {seps : Text} : ∀ {ts : List Text}, c ∈ join seps ts →
    c ∈ seps ∨ ∃ t ∈ ts, c ∈ t
  | [], h => absurd h List.not_mem_nil
  | [t], h => .inr ⟨t, List.mem_cons_self, h⟩
  | t :: u :: rest, h => by
    rw [join_cons_cons, List.append_assoc, List.mem_append, List.mem_append] at h
    rw [List.exists_mem_cons_iff]
    rcases h with h | h | h
    · exact .inr (.inl h)
    · exact .inl h
    · exact (mem_join h).imp_right .inr

/-! ## Other ways to write a code point -/

section Written

variable {f : CodePoint → Text} (hsep : f sep = [sep])

include hsep

theorem join_map_flatMap (ts : List Text) :
    join [sep] (ts.map (List.flatMap f)) = (join [sep] ts).flatMap f := by
  induction ts with
  | nil => rfl
  | cons t rest ih =>
    cases rest with
    | nil => rfl
    | cons u rest =>
      rw [List.map_cons, List.map_cons, join_cons_cons, ← List.map_cons, ih, join_cons_cons]
      simp only [List.flatMap_append, List.flatMap_singleton, hsep]

theorem splitOn_flatMap (hothers : ∀ c, c ≠ sep → sep ∉ f c) (t : Text) :
    splitOn sep (t.flatMap f) = (splitOn sep t).map (List.flatMap f) := by
  have hpieces : ∀ u ∈ (splitOn sep t).map (List.flatMap f), sep ∉ u := by
    intro u hu
    obtain ⟨piece, hpiece, rfl⟩ := List.mem_map.mp hu
    rw [List.mem_flatMap]
    rintro ⟨c, hc, hmem⟩
    exact hothers c (fun heq => notMem_of_mem_splitOn hpiece (heq ▸ hc)) hmem
  calc splitOn sep (t.flatMap f)
    _ = splitOn sep ((join [sep] (splitOn sep t)).flatMap f) := by rw [join_splitOn]
    _ = splitOn sep (join [sep] ((splitOn sep t).map (List.flatMap f))) := by
      rw [join_map_flatMap hsep]
    _ = (splitOn sep t).map (List.flatMap f) :=
      splitOn_join (mt List.map_eq_nil_iff.mp (splitOn_ne_nil sep t)) hpieces

end Written

end Text

end ProfileFilter
