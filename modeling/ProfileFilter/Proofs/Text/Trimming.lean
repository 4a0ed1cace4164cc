import ProfileFilter.Text.Basic
import Mathlib.Data.List.DropRight

/-!
# Trimming

What is left of a text without the blanks at both ends of it. A text is what is left of it between
blanks (`exists_eq_append_trim`), and blanks around a text do not change what is left
(`trim_append_blanks`). Likewise a text is what is left of it without the copies of one code point
at its end, followed by these (`exists_eq_dropTrailing_append`, `dropTrailing_append`).
-/

namespace ProfileFilter

namespace Text

/-- Is there nothing but blanks in the text? -/
def AllBlank (t : Text) : Prop := ∀ c ∈ t, c.isBlank = true

instance decidableAllBlank (t : Text) : Decidable t.AllBlank :=
  List.decidableBAll _ t

/-- Blanks around a text do not change what is left when it is trimmed. -/
theorem trim_append_blanks {u v : Text} (hu : u.AllBlank) (hv : v.AllBlank) (t : Text) :
    trim (u ++ t ++ v) = trim t := by
  have hleft : (u ++ t ++ v).dropWhile CodePoint.isBlank =
      (t ++ v).dropWhile CodePoint.isBlank := by
    rw [List.append_assoc, List.dropWhile_append_of_pos hu]
  have hright : ∀ s : Text, (s ++ v).reverse.dropWhile CodePoint.isBlank =
      s.reverse.dropWhile CodePoint.isBlank := by
    intro s
    rw [List.reverse_append, List.dropWhile_append_of_pos fun c hc => hv c (List.mem_reverse.mp hc)]
  rw [trim, trim, hleft, List.dropWhile_append]
  split_ifs with hempty
  · -- the text is blank itself, and nothing is left of the whole
    rw [List.isEmpty_iff.mp hempty, List.dropWhile_eq_nil_iff.mpr hv]
  · rw [hright]

/-- A text is what is left of it when it is trimmed, between blanks. -/
theorem exists_eq_append_trim (t : Text) :
    ∃ u v : Text, u.AllBlank ∧ v.AllBlank ∧ t = u ++ t.trim ++ v := by
  refine ⟨t.takeWhile CodePoint.isBlank,
    (t.dropWhile CodePoint.isBlank).rtakeWhile CodePoint.isBlank,
    fun c hc => List.mem_takeWhile_imp hc, fun c hc => List.mem_rtakeWhile_imp hc, ?_⟩
  have htrim : t.trim = (t.dropWhile CodePoint.isBlank).rdropWhile CodePoint.isBlank := rfl
  rw [htrim, List.append_assoc, List.rdropWhile_append_rtakeWhile, List.takeWhile_append_dropWhile]

/-- A text is what is left of it without the blanks at its end, and these. -/
theorem exists_eq_trimEnd_append (t : Text) :
    ∃ blanks : Text, blanks.AllBlank ∧ t = t.trimEnd ++ blanks := by
  refine ⟨t.rtakeWhile CodePoint.isBlank, fun c hc => List.mem_rtakeWhile_imp hc, ?_⟩
  exact List.rdropWhile_append_rtakeWhile.symm

theorem trim_eq_nil_iff {t : Text} : t.trim = [] ↔ t.AllBlank := by
  constructor
  · intro h
    obtain ⟨u, v, hu, hv, ht⟩ := exists_eq_append_trim t
    rw [ht, h, List.append_nil]
    exact List.forall_mem_append.mpr ⟨hu, hv⟩
  · intro h
    have htrim := trim_append_blanks h (v := []) (List.forall_mem_nil _) []
    rwa [List.append_nil, List.append_nil] at htrim

/-- What is left of a text that starts with no blank starts alike, and is followed by blanks. -/
theorem exists_trim_cons {c : CodePoint} (hc : c.isBlank = false) (t : Text) :
    ∃ rest v : Text, v.AllBlank ∧ trim (c :: t) = c :: rest ∧ t = rest ++ v := by
  obtain ⟨u, v, hu, hv, ht⟩ := exists_eq_append_trim (c :: t)
  have hfirst : ∀ w : Text, w.AllBlank → ∀ d ∈ w.head?, d ≠ c := by
    rintro w hw d hd rfl
    rw [hw d (List.mem_of_mem_head? hd)] at hc
    cases hc
  cases u with
  | cons d u =>
    obtain ⟨rfl, -⟩ := List.cons.inj ht
    exact absurd rfl (hfirst _ hu c rfl)
  | nil =>
    cases htrim : trim (c :: t) with
    | nil =>
      rw [htrim] at ht
      rw [← List.nil_append v, ← List.nil_append ([] ++ v), ← List.append_assoc, ← ht] at hv
      exact absurd rfl (hfirst _ hv c rfl)
    | cons d rest =>
      rw [htrim] at ht
      obtain ⟨rfl, hrest⟩ := List.cons.inj ht
      exact ⟨rest, v, hv, rfl, hrest⟩

theorem trim_trim (t : Text) : t.trim.trim = t.trim := by
  obtain ⟨u, v, hu, hv, ht⟩ := exists_eq_append_trim t
  have htrim := trim_append_blanks hu hv t.trim
  rw [← ht] at htrim
  exact htrim.symm

theorem trim_sublist (t : Text) : t.trim.Sublist t := by
  obtain ⟨u, v, -, -, ht⟩ := exists_eq_append_trim t
  conv_rhs => rw [ht]
  exact (List.sublist_append_right u t.trim).trans (List.sublist_append_left _ v)

theorem mem_of_mem_trim {c : CodePoint} {t : Text} (h : c ∈ t.trim) : c ∈ t :=
  (trim_sublist t).mem h

/-- Only blanks are trimmed. -/
theorem mem_trim_of_mem {c : CodePoint} {t : Text} (h : c ∈ t) (hc : c.isBlank = false) :
    c ∈ t.trim := by
  obtain ⟨u, v, hu, hv, ht⟩ := exists_eq_append_trim t
  rw [ht, List.mem_append, List.mem_append] at h
  rcases h with (h | h) | h
  · rw [hu c h] at hc
    cases hc
  · exact h
  · rw [hv c h] at hc
    cases hc

/-- Trimming leaves those texts as they are that neither start nor end with a blank. -/
theorem trim_eq_self_iff {t : Text} : t.trim = t ↔
    (∀ c ∈ t.head?, c.isBlank = false) ∧ ∀ c ∈ t.getLast?, c.isBlank = false := by
  constructor
  · intro h
    -- without a blank at one of its ends the text would be longer than what is left of it
    have hlength : ∀ inner : Text, t.trim = inner.trim → t.length ≤ inner.length := by
      intro inner hinner
      rw [← h, hinner]
      exact (trim_sublist inner).length_le
    constructor
    · intro c hc
      obtain ⟨rest, rfl⟩ := List.head?_eq_some_iff.mp hc
      by_contra hblank
      have hu : AllBlank [c] := by simpa [AllBlank] using hblank
      have hrest := trim_append_blanks hu (v := []) (List.forall_mem_nil _) rest
      rw [List.append_nil] at hrest
      exact absurd (hlength rest hrest) (by simp)
    · intro c hc
      obtain ⟨front, rfl⟩ := List.getLast?_eq_some_iff.mp hc
      by_contra hblank
      have hv : AllBlank [c] := by simpa [AllBlank] using hblank
      have hfront := trim_append_blanks (u := []) (List.forall_mem_nil _) hv front
      exact absurd (hlength front hfront) (by simp)
  · rintro ⟨hhead, hlast⟩
    obtain ⟨u, v, hu, hv, ht⟩ := exists_eq_append_trim t
    have hleft : u = [] := by
      cases u with
      | nil => rfl
      | cons c u =>
        have hc : c.isBlank = false := hhead c (by rw [ht]; rfl)
        rw [hu c List.mem_cons_self] at hc
        cases hc
    have hright : v = [] := by
      rcases List.eq_nil_or_concat v with rfl | ⟨front, c, rfl⟩
      · rfl
      · have hc : c.isBlank = false := hlast c (by
          rw [ht, List.concat_eq_append, ← List.append_assoc, List.getLast?_concat]
          rfl)
        rw [hv c (by simp)] at hc
        cases hc
    rw [hleft, hright, List.nil_append, List.append_nil] at ht
    exact ht.symm

theorem trim_of_forall {t : Text} (h : ∀ c ∈ t, c.isBlank = false) : t.trim = t :=
  trim_eq_self_iff.mpr ⟨fun c hc => h c (List.mem_of_mem_head? hc),
    fun c hc => h c (List.mem_of_getLast? hc)⟩

/-! ## Dropping one code point at the end -/

section DropTrailing

variable {c : CodePoint} {t : Text}

/-- A text is what is left of it without the copies of a code point at its end, and these. -/
theorem exists_eq_dropTrailing_append (c : CodePoint) (t : Text) :
    ∃ dropped : Text, (∀ d ∈ dropped, d = c) ∧ t = dropTrailing c t ++ dropped := by
  refine ⟨t.rtakeWhile (· == c), fun d hd => ?_, ?_⟩
  · exact beq_iff_eq.mp (List.mem_rtakeWhile_imp (p := (· == c)) hd)
  · exact (List.rdropWhile_append_rtakeWhile (p := (· == c))).symm

theorem mem_dropTrailing_of_mem {d : CodePoint} (h : d ∈ t) (hd : d ≠ c) :
    d ∈ dropTrailing c t := by
  obtain ⟨dropped, hdropped, ht⟩ := exists_eq_dropTrailing_append c t
  rw [ht, List.mem_append] at h
  exact h.resolve_right fun hmem => hd (hdropped d hmem)

theorem mem_of_mem_dropTrailing {d : CodePoint} (h : d ∈ dropTrailing c t) : d ∈ t := by
  obtain ⟨dropped, -, ht⟩ := exists_eq_dropTrailing_append c t
  rw [ht]
  exact List.mem_append_left dropped h

/-- Nothing is dropped of a text that does not end with the code point, but all that follows. -/
theorem dropTrailing_append {dropped : Text} (ht : t.getLast? ≠ some c)
    (hdropped : ∀ d ∈ dropped, d = c) : dropTrailing c (t ++ dropped) = t := by
  have hreverse : ∀ d ∈ dropped.reverse, (d == c) = true := by
    intro d hd
    rw [beq_iff_eq]
    exact hdropped d (List.mem_reverse.mp hd)
  rw [dropTrailing, List.reverse_append, List.dropWhile_append_of_pos hreverse]
  rcases List.eq_nil_or_concat t with rfl | ⟨front, d, rfl⟩
  · rfl
  · have hd : ¬ (d == c) = true := by
      rw [beq_iff_eq]
      rintro rfl
      simp at ht
    simp [hd]

theorem getLast?_dropTrailing (c : CodePoint) (t : Text) :
    (dropTrailing c t).getLast? ≠ some c := by
  intro hlast
  have hne : dropTrailing c t ≠ [] := by
    rintro hnil
    rw [hnil] at hlast
    cases hlast
  have hkept : ¬ ((dropTrailing c t).getLast hne == c) = true :=
    List.rdropWhile_last_not (· == c) t hne
  rw [List.getLast?_eq_some_getLast hne] at hlast
  exact hkept (beq_iff_eq.mpr (Option.some.inj hlast))

theorem dropTrailing_eq_self (h : t.getLast? ≠ some c) : dropTrailing c t = t := by
  simpa using dropTrailing_append h (List.forall_mem_nil _)

end DropTrailing

end Text

end ProfileFilter
