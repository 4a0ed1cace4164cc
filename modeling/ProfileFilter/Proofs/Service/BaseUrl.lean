import ProfileFilter.Proofs.Text.Trimming
import ProfileFilter.Service.Credentials

/-!
# The form of base URLs

A base URL is trimmed, and loses the slashes at its end. It keeps its form if that is done once
more, unless a blank stands before the slashes that were dropped (`HidesBlank`): the blank is at the
end then, and takes its turn when the URL is trimmed again. Every place that brings a URL into form
can therefore yield something else than the one before it, and no place does for a URL that hides no
blank (`normalBaseUrl_normalBaseUrl_iff`).

Dropping slashes alone is enough exactly for the URLs that have no blanks around them
(`dropTrailing_eq_normalBaseUrl_iff`).
-/

namespace ProfileFilter

namespace Credentials

/-- Between blanks, the URL ends with a blank that only slashes follow. -/
def HidesBlank (url : Text) : Prop :=
  ∃ (front : Text) (c : CodePoint) (slashes : Text),
    url.trim = front ++ c :: slashes ∧ c.isBlank = true ∧ ∀ d ∈ slashes, d = ('/' : CodePoint)

variable {url : Text}

theorem slash_ne_of_isBlank {c : CodePoint} (h : c.isBlank = true) : c ≠ ('/' : CodePoint) := by
  rintro rfl
  exact absurd h (by decide)

theorem exists_trim_eq_normalBaseUrl_append (url : Text) :
    ∃ slashes : Text, (∀ d ∈ slashes, d = ('/' : CodePoint)) ∧
      url.trim = normalBaseUrl url ++ slashes :=
  Text.exists_eq_dropTrailing_append '/' url.trim

theorem normalBaseUrl_sublist_trim (url : Text) : (normalBaseUrl url).Sublist url.trim := by
  obtain ⟨slashes, -, htrim⟩ := exists_trim_eq_normalBaseUrl_append url
  rw [htrim]
  exact List.sublist_append_left _ slashes

/-- Nothing but blanks and slashes is missing in a URL in form. -/
theorem mem_normalBaseUrl_of_mem {c : CodePoint} (h : c ∈ url) (hblank : c.isBlank = false)
    (hslash : c ≠ ('/' : CodePoint)) : c ∈ normalBaseUrl url :=
  Text.mem_dropTrailing_of_mem (Text.mem_trim_of_mem h hblank) hslash

/-! ## The ends of a URL in form -/

theorem getLast?_normalBaseUrl (url : Text) :
    (normalBaseUrl url).getLast? ≠ some ('/' : CodePoint) :=
  Text.getLast?_dropTrailing '/' url.trim

theorem isBlank_of_mem_head?_normalBaseUrl {c : CodePoint} (h : c ∈ (normalBaseUrl url).head?) :
    c.isBlank = false := by
  obtain ⟨slashes, -, htrim⟩ := exists_trim_eq_normalBaseUrl_append url
  obtain ⟨rest, hrest⟩ := List.head?_eq_some_iff.mp h
  rw [hrest] at htrim
  refine (Text.trim_eq_self_iff.mp (Text.trim_trim url)).1 c ?_
  rw [htrim]
  rfl

/-- A blank is left at the end exactly if the URL hid one. -/
theorem exists_isBlank_iff :
    (∃ c ∈ (normalBaseUrl url).getLast?, c.isBlank = true) ↔ HidesBlank url := by
  constructor
  · rintro ⟨c, hc, hblank⟩
    obtain ⟨slashes, hslashes, htrim⟩ := exists_trim_eq_normalBaseUrl_append url
    obtain ⟨front, hfront⟩ := List.getLast?_eq_some_iff.mp hc
    rw [hfront, List.append_assoc] at htrim
    exact ⟨front, c, slashes, htrim, hblank, hslashes⟩
  · rintro ⟨front, c, slashes, htrim, hblank, hslashes⟩
    have hlast : (front ++ [c]).getLast? ≠ some ('/' : CodePoint) := by
      rw [List.getLast?_concat]
      exact fun heq => slash_ne_of_isBlank hblank (Option.some.inj heq)
    have hform : normalBaseUrl url = front ++ [c] := by
      rw [normalBaseUrl, htrim, ← List.singleton_append, ← List.append_assoc,
        Text.dropTrailing_append hlast hslashes]
    rw [hform, List.getLast?_concat]
    exact ⟨c, rfl, hblank⟩

/-- There are no blanks around a URL in form, unless it hid one. -/
theorem trim_normalBaseUrl_iff :
    (normalBaseUrl url).trim = normalBaseUrl url ↔ ¬ HidesBlank url := by
  rw [Text.trim_eq_self_iff, ← exists_isBlank_iff]
  simp only [not_exists, not_and, Bool.not_eq_true]
  exact and_iff_right fun c hc => isBlank_of_mem_head?_normalBaseUrl hc

/-! ## Bringing a URL into form again -/

/-- A URL is in form if there are no blanks around it and no slashes at its end. -/
theorem normalBaseUrl_eq_self_iff :
    normalBaseUrl url = url ↔ url.trim = url ∧ url.getLast? ≠ some ('/' : CodePoint) := by
  constructor
  · intro h
    have hsublist := normalBaseUrl_sublist_trim url
    have hlast := getLast?_normalBaseUrl url
    rw [h] at hsublist hlast
    exact ⟨(Text.trim_sublist url).antisymm hsublist, hlast⟩
  · rintro ⟨htrim, hlast⟩
    rw [normalBaseUrl, htrim, Text.dropTrailing_eq_self hlast]

/-- **A URL in form keeps its form**, unless it hid a blank. -/
theorem normalBaseUrl_normalBaseUrl_iff :
    normalBaseUrl (normalBaseUrl url) = normalBaseUrl url ↔ ¬ HidesBlank url := by
  rw [normalBaseUrl_eq_self_iff, trim_normalBaseUrl_iff]
  exact and_iff_left (getLast?_normalBaseUrl url)

/-! ## Dropping slashes alone -/

/-- Dropping the slashes keeps a blank at the start. -/
theorem dropTrailing_cons_of_isBlank {c : CodePoint} (hc : c.isBlank = true) (rest : Text) :
    (Text.dropTrailing '/' (c :: rest)).head? = some c := by
  obtain ⟨slashes, hslashes, hsplit⟩ := Text.exists_eq_dropTrailing_append '/' (c :: rest)
  cases hkept : Text.dropTrailing '/' (c :: rest) with
  | nil =>
    rw [hkept, List.nil_append] at hsplit
    exact absurd (hslashes c (hsplit ▸ List.mem_cons_self)) (slash_ne_of_isBlank hc)
  | cons d kept =>
    rw [hkept] at hsplit
    obtain ⟨rfl, -⟩ := List.cons.inj hsplit
    rfl

/-- **Dropping slashes brings a URL into form** exactly if there are no blanks around it. -/
theorem dropTrailing_eq_normalBaseUrl_iff :
    Text.dropTrailing '/' url = normalBaseUrl url ↔ url.trim = url := by
  constructor
  · intro h
    refine Text.trim_eq_self_iff.mpr ⟨fun c hc => ?_, fun c hc => ?_⟩
    · obtain ⟨rest, rfl⟩ := List.head?_eq_some_iff.mp hc
      by_contra hblank
      have hhead := dropTrailing_cons_of_isBlank (eq_true_of_ne_false hblank) rest
      rw [h] at hhead
      exact hblank (isBlank_of_mem_head?_normalBaseUrl hhead)
    · by_contra hblank
      have hlast : url.getLast? ≠ some ('/' : CodePoint) := by
        rw [hc]
        exact fun heq => slash_ne_of_isBlank (eq_true_of_ne_false hblank) (Option.some.inj heq)
      rw [Text.dropTrailing_eq_self hlast] at h
      exact hblank ((Text.trim_eq_self_iff.mp (normalBaseUrl_eq_self_iff.mp h.symm).1).2 c hc)
  · intro htrim
    rw [normalBaseUrl, htrim]

end Credentials

end ProfileFilter
