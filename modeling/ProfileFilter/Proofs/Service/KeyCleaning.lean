import Mathlib.Logic.Relation
import ProfileFilter.Proofs.Text.Trimming
import ProfileFilter.Service.Credentials

/-!
# Cleaning keys

A key is trimmed, and what is left loses its code points outside ASCII. A blank that stands behind
nothing but such code points is not at the end of the key when the key is trimmed, but at the end of
what is left of it: the cleaned key may start or end with a blank, and cleaning it once more takes
that away. So cleaning twice always gives the *bare* key (`sanitizeKey_sanitizeKey`), and cleaning
once does exactly if the outermost ASCII code points of the trimmed key are no blanks
(`HasClearEnds`).

What a key picks up where it is copied is said by a relation of its own (`SameKey`), which knows
nothing of cleaning; the bare key decides it (`sameKey_iff`).

Main statement: `sanitizeKey_cleans`.
-/

namespace ProfileFilter

namespace Credentials

/-! ## Bare keys -/

/-- What a key holds in ASCII, without the blanks around that. -/
def bareKey (key : Text) : Text := Text.trim (key.filter CodePoint.isAscii)

/-- Blanks around a key are none of it. -/
theorem bareKey_append_blanks {u v : Text} (hu : u.AllBlank) (hv : v.AllBlank) (key : Text) :
    bareKey (u ++ key ++ v) = bareKey key := by
  have hfilter : ∀ {t : Text}, t.AllBlank → Text.AllBlank (t.filter CodePoint.isAscii) :=
    fun ht c hc => ht c (List.mem_filter.mp hc).1
  rw [bareKey, List.filter_append, List.filter_append,
    Text.trim_append_blanks (hfilter hu) (hfilter hv), bareKey]

/-- Nor is a code point outside ASCII, wherever it stands. -/
theorem bareKey_append_foreign {c : CodePoint} (h : c.isAscii = false) (front rest : Text) :
    bareKey (front ++ c :: rest) = bareKey (front ++ rest) := by
  simp [bareKey, h]

theorem isAscii_of_mem_sanitizeKey {key : Text} {c : CodePoint} (h : c ∈ sanitizeKey key) :
    c.isAscii = true :=
  (List.mem_filter.mp h).2

theorem sanitizeKey_sublist (key : Text) : (sanitizeKey key).Sublist key :=
  List.filter_sublist.trans (Text.trim_sublist key)

/-- A cleaned key may have blanks around it; without them it is bare. -/
theorem trim_sanitizeKey (key : Text) : (sanitizeKey key).trim = bareKey key := by
  obtain ⟨u, v, hu, hv, hkey⟩ := Text.exists_eq_append_trim key
  conv_rhs => rw [hkey, bareKey_append_blanks hu hv]
  rfl

/-- **Cleaning a key twice bares it.** -/
theorem sanitizeKey_sanitizeKey (key : Text) : sanitizeKey (sanitizeKey key) = bareKey key := by
  have hascii : ∀ c ∈ (sanitizeKey key).trim, c.isAscii = true :=
    fun c hc => isAscii_of_mem_sanitizeKey (Text.mem_of_mem_trim hc)
  rw [← trim_sanitizeKey, sanitizeKey, List.filter_eq_self.mpr hascii]

/-! ## The ends of a key -/

/-- The outermost ASCII code points of the text, if there are any, are no blanks. -/
def HasClearEnds (t : Text) : Prop :=
  (∀ c ∈ t.find? CodePoint.isAscii, c.isBlank = false) ∧
    ∀ c ∈ t.reverse.find? CodePoint.isAscii, c.isBlank = false

instance decidableHasClearEnds (t : Text) : Decidable (HasClearEnds t) :=
  @instDecidableAnd _ _ (Option.decidableForallMem _) (Option.decidableForallMem _)

/-- The ends of a trimmed key decide whether the cleaned key has blanks around it. -/
theorem trim_sanitizeKey_eq_self_iff {key : Text} :
    (sanitizeKey key).trim = sanitizeKey key ↔ HasClearEnds key.trim := by
  rw [Text.trim_eq_self_iff, sanitizeKey, List.head?_filter, List.getLast?_filter, HasClearEnds]

theorem sanitizeKey_eq_bareKey {key : Text} (h : HasClearEnds key.trim) :
    sanitizeKey key = bareKey key :=
  (trim_sanitizeKey_eq_self_iff.mpr h).symm.trans (trim_sanitizeKey key)

/-! ## Keys that were copied -/

/-- What a key may pick up where it is copied. -/
inductive PicksUp : Text → Text → Prop where
  /-- a code point outside ASCII, anywhere -/
  | foreign {c : CodePoint} (h : c.isAscii = false) (front rest : Text) :
      PicksUp (front ++ rest) (front ++ c :: rest)
  /-- a blank before it -/
  | before {c : CodePoint} (h : c.isBlank = true) (key : Text) : PicksUp key (c :: key)
  /-- a blank behind it -/
  | behind {c : CodePoint} (h : c.isBlank = true) (key : Text) : PicksUp key (key ++ [c])

/-- Keys that differ only in blanks around them and in code points outside ASCII. -/
def SameKey : Text → Text → Prop := Relation.EqvGen PicksUp

/-- Nothing that a key picks up is part of the bare key. -/
theorem PicksUp.bareKey_eq {key other : Text} (h : PicksUp key other) :
    bareKey key = bareKey other := by
  cases h with
  | foreign hc front rest => exact (bareKey_append_foreign hc front rest).symm
  | @before c hc =>
    have hu : Text.AllBlank [c] := List.forall_mem_singleton.mpr hc
    have hbare := bareKey_append_blanks hu (v := []) (List.forall_mem_nil _) key
    rw [List.append_nil] at hbare
    exact hbare.symm
  | @behind c hc =>
    have hv : Text.AllBlank [c] := List.forall_mem_singleton.mpr hc
    exact (bareKey_append_blanks (u := []) (List.forall_mem_nil _) hv key).symm

/-- A key may lose its code points outside ASCII, one after the other. -/
theorem sameKey_append_filter (front key : Text) :
    SameKey (front ++ key) (front ++ key.filter CodePoint.isAscii) := by
  induction key generalizing front with
  | nil => exact .refl _
  | cons c rest ih =>
    cases hc : c.isAscii with
    | true =>
      have hrest := ih (front ++ [c])
      rw [List.append_assoc, List.append_assoc] at hrest
      rw [List.filter_cons_of_pos hc]
      exact hrest
    | false =>
      rw [List.filter_cons_of_neg (Bool.eq_false_iff.mp hc)]
      exact .trans _ _ _ (.symm _ _ (.rel _ _ (.foreign hc front rest))) (ih front)

/-- A key may be put between blanks, the innermost first. -/
theorem sameKey_append_blanks {u v : Text} (hu : u.AllBlank) (hv : v.AllBlank) (key : Text) :
    SameKey key (u ++ key ++ v) := by
  have hbefore : ∀ t : Text, SameKey t (u ++ t) := by
    intro t
    induction u with
    | nil => exact .refl _
    | cons c u ih =>
      obtain ⟨hc, hu⟩ := List.forall_mem_cons.mp hu
      exact .trans _ _ _ (ih hu) (.rel _ _ (.before hc _))
  have hbehind : ∀ t : Text, SameKey t (t ++ v) := by
    intro t
    induction v generalizing t with
    | nil =>
      rw [List.append_nil]
      exact .refl _
    | cons c v ih =>
      obtain ⟨hc, hv⟩ := List.forall_mem_cons.mp hv
      have hrest := ih hv (t ++ [c])
      rw [List.append_assoc] at hrest
      exact .trans _ _ _ (.rel _ _ (.behind hc t)) hrest
  exact .trans _ _ _ (hbefore key) (hbehind _)

theorem sameKey_bareKey (key : Text) : SameKey key (bareKey key) := by
  obtain ⟨u, v, hu, hv, hfilter⟩ := Text.exists_eq_append_trim (key.filter CodePoint.isAscii)
  have hkey : SameKey key (key.filter CodePoint.isAscii) := sameKey_append_filter [] key
  rw [hfilter] at hkey
  exact .trans _ _ _ hkey (.symm _ _ (sameKey_append_blanks hu hv _))

/-- **The bare key decides** whether keys differ only in what they picked up. -/
theorem sameKey_iff {key other : Text} : SameKey key other ↔ bareKey key = bareKey other := by
  constructor
  · intro h
    induction h with
    | rel _ _ h => exact h.bareKey_eq
    | refl _ => rfl
    | symm _ _ _ ih => exact ih.symm
    | trans _ _ _ _ _ ih ih' => exact ih.trans ih'
  · intro h
    have hother := sameKey_bareKey other
    rw [← h] at hother
    exact .trans _ _ _ (sameKey_bareKey key) (.symm _ _ hother)

/-- **What cleaning does to a key.**

* The cleaned key is of ASCII, and what is in it stands in the key, in the same order.
* Cleaning it once more bares it.
* It has no blanks around it, and is not changed by cleaning it once more, exactly if the outermost
  ASCII code points of the trimmed key are no blanks.
* Two keys differ only in blanks around them and in code points outside ASCII exactly if their
  cleaned forms differ only in blanks around them; and, of keys whose outermost ASCII code points
  are no blanks, exactly if their cleaned forms are the same. -/
theorem sanitizeKey_cleans (key : Text) :
    (∀ c ∈ sanitizeKey key, c.isAscii = true) ∧ (sanitizeKey key).Sublist key ∧
      sanitizeKey (sanitizeKey key) = bareKey key ∧
      ((sanitizeKey key).trim = sanitizeKey key ↔ HasClearEnds key.trim) ∧
      (sanitizeKey (sanitizeKey key) = sanitizeKey key ↔ HasClearEnds key.trim) ∧
      ∀ other, (SameKey key other ↔ (sanitizeKey key).trim = (sanitizeKey other).trim) ∧
        (HasClearEnds key.trim → HasClearEnds other.trim →
          (SameKey key other ↔ sanitizeKey key = sanitizeKey other)) := by
  refine ⟨fun c hc => isAscii_of_mem_sanitizeKey hc, sanitizeKey_sublist key,
    sanitizeKey_sanitizeKey key, trim_sanitizeKey_eq_self_iff, ?_, fun other => ⟨?_, ?_⟩⟩
  · rw [sanitizeKey_sanitizeKey, ← trim_sanitizeKey, trim_sanitizeKey_eq_self_iff]
  · rw [trim_sanitizeKey, trim_sanitizeKey, sameKey_iff]
  · intro hkey hother
    rw [sanitizeKey_eq_bareKey hkey, sanitizeKey_eq_bareKey hother, sameKey_iff]

/-- A key with a zero-width space and an accented letter in it, between blanks. -/
theorem sanitizeKey_cleans_pasted :
    HasClearEnds (Text.trim "\u00a0a-\u200b1é\n") ∧ HasClearEnds (Text.trim "a-1") ∧
      SameKey "\u00a0a-\u200b1é\n" "a-1" ∧
      sanitizeKey "\u00a0a-\u200b1é\n" = sanitizeKey "a-1" ∧
      sanitizeKey "a-1" = ("a-1" : Text) := by
  have hclear : HasClearEnds (Text.trim "\u00a0a-\u200b1é\n") := by decide +kernel
  have hplain : HasClearEnds (Text.trim "a-1") := by decide +kernel
  obtain ⟨-, -, -, -, -, hsame⟩ := sanitizeKey_cleans "\u00a0a-\u200b1é\n"
  obtain ⟨htrim, hcleaned⟩ := hsame "a-1"
  have hkeys : SameKey "\u00a0a-\u200b1é\n" "a-1" := htrim.mpr (by decide +kernel)
  exact ⟨hclear, hplain, hkeys, (hcleaned hclear hplain).mp hkeys, by decide +kernel⟩

/-- A blank behind a zero-width space is left at the start of the cleaned key, until that is cleaned
once more; the same key without the two is cleaned to something else. -/
theorem sanitizeKey_uncovers :
    sanitizeKey "\u200b k" = (" k" : Text) ∧ Text.trim " k" ≠ (" k" : Text) ∧
      sanitizeKey " k" ≠ (" k" : Text) ∧ SameKey "\u200b k" "k" ∧
      sanitizeKey "\u200b k" ≠ sanitizeKey "k" :=
  ⟨by decide +kernel, by decide +kernel, by decide +kernel, sameKey_iff.mpr (by decide +kernel),
    by decide +kernel⟩

end Credentials

end ProfileFilter
