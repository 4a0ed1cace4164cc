import ProfileFilter.Text.Percent
import ProfileFilter.Text.Quoted
import Mathlib.Data.List.Basic
import Mathlib.Tactic.SplitIfs

/-!
# Encodable texts

A text is encodable when it holds no lone surrogate. Being encodable is a condition on
each code point, so it distributes over everything texts are put together with and taken
apart by; the facts here let later modules argue about the parts of a printed text one by
one. Texts made of characters, digits among them, are encodable as they stand, and quoting
makes every text encodable (`isEncodable_quoted`).
-/

namespace ProfileFilter

namespace CodePoint

theorem isSurrogate_eq_false_iff {c : CodePoint} :
    c.isSurrogate = false ↔ c.val < 0xD800 ∨ 0xDFFF < c.val := by
  simp only [isSurrogate, Bool.and_eq_false_iff, decide_eq_false_iff_not]
  omega

/-- Characters are the code points that are not surrogates. -/
theorem isSurrogate_ofChar (c : Char) : (ofChar c).isSurrogate = false := by
  rw [isSurrogate_eq_false_iff]
  have hval : (ofChar c).val = c.toNat % 0x110000 := rfl
  rw [hval]
  rcases c.valid with h | ⟨hlow, hhigh⟩
  · have hchar : c.toNat < 0xD800 := h
    omega
  · have hchar : 0xDFFF < c.toNat ∧ c.toNat < 0x110000 := ⟨hlow, hhigh⟩
    omega

theorem isSurrogate_of_isBlank {c : CodePoint} (h : c.isBlank = true) : c.isSurrogate = false := by
  rw [isSurrogate_eq_false_iff]
  simp only [isBlank, Bool.or_eq_true, Bool.and_eq_true, decide_eq_true_eq, beq_iff_eq] at h
  omega

end CodePoint

namespace Text

@[simp] theorem isEncodable_cons (c : CodePoint) (t : Text) :
    isEncodable (c :: t) = (!c.isSurrogate && isEncodable t) := rfl

@[simp] theorem isEncodable_append (s t : Text) :
    isEncodable (s ++ t) = (isEncodable s && isEncodable t) := List.all_append

theorem isEncodable_iff {t : Text} : isEncodable t = true ↔ ∀ c ∈ t, c.isSurrogate = false := by
  simp [isEncodable]

/-- A text holds a lone surrogate or is encodable. -/
theorem not_isEncodable_iff {t : Text} :
    isEncodable t = false ↔ ∃ c ∈ t, c.isSurrogate = true := by
  simp [isEncodable]

theorem isEncodable_of_subset {s t : Text} (hsub : s ⊆ t) (h : t.isEncodable = true) :
    s.isEncodable = true :=
  isEncodable_iff.mpr fun c hc => isEncodable_iff.mp h c (hsub hc)

/-! ## Texts of characters -/

theorem isEncodable_map_ofChar (cs : List Char) : isEncodable (cs.map CodePoint.ofChar) = true := by
  rw [isEncodable_iff]
  intro c hc
  obtain ⟨char, -, rfl⟩ := List.mem_map.mp hc
  exact CodePoint.isSurrogate_ofChar char

@[simp] theorem isEncodable_ofString (s : String) : isEncodable (ofString s) = true :=
  isEncodable_map_ofChar s.toList

@[simp] theorem isEncodable_ofNat (n : Nat) : isEncodable (ofNat n) = true :=
  isEncodable_map_ofChar _

@[simp] theorem isEncodable_ofInt : ∀ n : Int, isEncodable (ofInt n) = true
  | .ofNat n => isEncodable_ofNat n
  | .negSucc n => isEncodable_ofNat (n + 1)

@[simp] theorem isEncodable_zeros (n : Nat) :
    isEncodable (List.replicate n ('0' : CodePoint)) = true := by
  rw [isEncodable_iff]
  intro c hc
  rw [List.eq_of_mem_replicate hc]
  rfl

@[simp] theorem isEncodable_padded (width n : Nat) : isEncodable (padded width n) = true := by
  rw [padded, isEncodable_append, isEncodable_zeros, isEncodable_ofNat]
  rfl

/-! ## Putting together -/

theorem isEncodable_flatMap {t : Text} {f : CodePoint → Text} :
    isEncodable (t.flatMap f) = true ↔ ∀ c ∈ t, isEncodable (f c) = true := by
  simp only [isEncodable_iff, List.mem_flatMap]
  constructor
  · intro h c hc d hd
    exact h d ⟨c, hc, hd⟩
  · rintro h d ⟨c, hc, hd⟩
    exact h c hc d hd

/-- Replacing a code point that is no surrogate by such a text changes nothing. -/
theorem isEncodable_replace {old : CodePoint} {new : Text} (hold : old.isSurrogate = false)
    (hnew : new.isEncodable = true) (t : Text) :
    isEncodable (t.replace old new) = isEncodable t := by
  rw [Bool.eq_iff_iff, replace, isEncodable_flatMap, isEncodable_iff]
  refine forall₂_congr fun c _ => ?_
  split_ifs with h
  · rw [beq_iff_eq.mp h]
    exact ⟨fun _ => hold, fun _ => hnew⟩
  · simp [isEncodable]

theorem join_cons_cons (sep t u : Text) (rest : List Text) :
    join sep (t :: u :: rest) = t ++ sep ++ join sep (u :: rest) := rfl

/-- All code points of joined texts pass exactly if those of each text do. -/
theorem all_join {p : CodePoint → Bool} {sep : Text} (hsep : sep.all p = true) :
    ∀ ts : List Text, (join sep ts).all p = ts.all (·.all p)
  | [] => rfl
  | [t] => by simp [join]
  | t :: u :: rest => by
    rw [join_cons_cons, List.all_append, List.all_append, hsep, Bool.and_true,
      all_join hsep (u :: rest)]
    rfl

/-- Joined texts are encodable exactly if each of them is. -/
theorem isEncodable_join {sep : Text} (hsep : sep.isEncodable = true) (ts : List Text) :
    isEncodable (join sep ts) = ts.all isEncodable :=
  all_join hsep ts

/-! ## Taking apart -/

theorem splitOn_ne_nil (sep : CodePoint) : ∀ t : Text, t.splitOn sep ≠ []
  | [] => List.cons_ne_nil _ _
  | c :: rest => by
    rw [splitOn]
    split
    · exact List.cons_ne_nil _ _
    · split <;> exact List.cons_ne_nil _ _

/-- The pieces of a text make up the text. -/
theorem join_splitOn (sep : CodePoint) (t : Text) : join [sep] (t.splitOn sep) = t := by
  induction t with
  | nil => rfl
  | cons c rest ih =>
    obtain ⟨piece, pieces, hsplit⟩ := List.exists_cons_of_ne_nil (splitOn_ne_nil sep rest)
    rw [hsplit] at ih
    rw [splitOn, hsplit]
    split_ifs with hc
    · rw [join_cons_cons, ih, beq_iff_eq.mp hc]
      rfl
    · cases pieces with
      | nil => exact congrArg (List.cons c) ih
      | cons next others => exact congrArg (List.cons c) ih

/-- A text is encodable exactly if its pieces are. -/
theorem all_isEncodable_splitOn {sep : CodePoint} (hsep : sep.isSurrogate = false) (t : Text) :
    (t.splitOn sep).all isEncodable = isEncodable t := by
  have hjoin : isEncodable [sep] = true := by simpa [isEncodable] using hsep
  rw [← isEncodable_join hjoin, join_splitOn]

theorem isEncodable_reverse (t : Text) : isEncodable t.reverse = isEncodable t :=
  List.all_reverse

/-- Blanks are no surrogates, so dropping them loses none. -/
theorem isEncodable_dropWhile_isBlank (t : Text) :
    isEncodable (t.dropWhile CodePoint.isBlank) = isEncodable t := by
  induction t with
  | nil => rfl
  | cons c rest ih =>
    rw [List.dropWhile_cons]
    split_ifs with hblank
    · rw [ih, isEncodable_cons, CodePoint.isSurrogate_of_isBlank hblank]
      rfl
    · rfl

theorem isEncodable_dropTrailing {t : Text} (h : t.isEncodable = true) (c : CodePoint) :
    isEncodable (dropTrailing c t) = true := by
  rw [dropTrailing, isEncodable_reverse]
  refine isEncodable_of_subset (List.dropWhile_suffix _).subset ?_
  rwa [isEncodable_reverse]

theorem isEncodable_trim (t : Text) : isEncodable t.trim = isEncodable t := by
  rw [trim, isEncodable_reverse, isEncodable_dropWhile_isBlank, isEncodable_reverse,
    isEncodable_dropWhile_isBlank]

/-! ## Quoting -/

theorem isSurrogate_hexDigitLower {n : Nat} (h : n < 16) :
    (CodePoint.hexDigitLower n).isSurrogate = false := by
  have hall : ∀ n < 16, (CodePoint.hexDigitLower n).isSurrogate = false := by decide
  exact hall n h

theorem isEncodable_hexPadded : ∀ width n : Nat, isEncodable (hexPadded width n) = true
  | 0, _ => rfl
  | width + 1, n => by
    rw [hexPadded, isEncodable_append, isEncodable_hexPadded width, isEncodable_cons,
      isSurrogate_hexDigitLower (Nat.mod_lt _ (by decide))]
    rfl

/-- All surrogates are in one of the ranges that are not printable. -/
theorem isSurrogate_of_isPrintable {c : CodePoint} (h : c.isPrintable = true) :
    c.isSurrogate = false := by
  have hrange : ((0xD7FC, 0xF8FF) : Nat × Nat) ∈ unprintableRanges := by decide +kernel
  rw [CodePoint.isPrintable, Bool.not_eq_true', List.any_eq_false] at h
  have hout := h _ hrange
  simp only [Bool.and_eq_true, decide_eq_true_eq] at hout
  rw [CodePoint.isSurrogate_eq_false_iff]
  omega

/-- Between quotation marks a surrogate is written by its number. -/
theorem isEncodable_quotedIn {mark : CodePoint} (hmark : mark.isSurrogate = false)
    (c : CodePoint) : isEncodable (mark.quotedIn c) = true := by
  unfold CodePoint.quotedIn
  split_ifs with hescaped htab hline hreturn hprintable
  · rw [Bool.or_eq_true, beq_iff_eq, beq_iff_eq] at hescaped
    have hc : c.isSurrogate = false := by
      rcases hescaped with h | h
      · rw [h, hmark]
      · rw [h]
        rfl
    rw [isEncodable_cons, isEncodable_cons, hc]
    rfl
  · exact isEncodable_ofString _
  · exact isEncodable_ofString _
  · exact isEncodable_ofString _
  · rw [isEncodable_cons, isSurrogate_of_isPrintable hprintable]
    rfl
  all_goals rw [isEncodable_append, isEncodable_ofString, isEncodable_hexPadded]; rfl

/-- **Quoted texts are encodable**, whatever the text. -/
@[simp] theorem isEncodable_quoted (t : Text) : isEncodable t.quoted = true := by
  have hmark : t.quotationMark.isSurrogate = false := by
    unfold quotationMark
    split_ifs <;> rfl
  have hbody : isEncodable (t.flatMap t.quotationMark.quotedIn) = true :=
    isEncodable_flatMap.mpr fun c _ => isEncodable_quotedIn hmark c
  rw [quoted, List.cons_append, isEncodable_cons, isEncodable_append, isEncodable_cons, hmark,
    hbody]
  rfl

end Text

end ProfileFilter
