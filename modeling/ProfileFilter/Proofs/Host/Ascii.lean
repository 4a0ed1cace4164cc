import ProfileFilter.Host.Label
import ProfileFilter.Proofs.Text.Pieces

/-!
# The ASCII form of host names

The ASCII form of a host name is made of letters, digits and hyphens, with dots between its
labels. In a label that is ASCII already this is so because the label behind it is admissible: the
ASCII code points that are admissible are small letters, digits and hyphens. The form of any other
label is made of such code points and of the digits of Punycode, which are letters and decimal
digits.

Main statement: `forall_mem_ascii?`.
-/

namespace ProfileFilter

namespace Host

/-- A code point of the ASCII form of a label. -/
def IsAsciiForm (c : CodePoint) : Prop :=
  c.isAsciiLetter = true ∨ c.isAsciiDigit = true ∨ c = '-'

/-! ## Admissible labels -/

/-- No code point is admissible below U+0080 but small letters, digits and the hyphen. -/
theorem isAsciiForm_of_isAdmissible {c : CodePoint} (h : isAdmissible c = true)
    (hascii : c.isAscii = true) : IsAsciiForm c := by
  have htable : ∀ range ∈ admissibleRanges, range.1 < 128 →
      range ∈ [(0x2D, 0x2D), (0x30, 0x39), (0x61, 0x7A)] := by
    decide +kernel
  have hascii : c.val < 128 := of_decide_eq_true hascii
  obtain ⟨range, hrange, hwithin⟩ := List.any_eq_true.mp h
  simp only [Bool.and_eq_true, decide_eq_true_eq] at hwithin
  have hlow := htable range hrange (Nat.lt_of_le_of_lt hwithin.1 hascii)
  simp only [List.mem_cons, List.not_mem_nil, or_false] at hlow
  rcases hlow with rfl | rfl | rfl
  · exact .inr (.inr (Fin.ext (Nat.le_antisymm hwithin.2 hwithin.1)))
  · exact .inr (.inl (by simpa [CodePoint.isAsciiDigit] using hwithin))
  · exact .inl (by simp [CodePoint.isAsciiLetter, CodePoint.isAsciiLower, hwithin])

/-- The code points that are admitted in context are not ASCII. -/
theorem isAscii_of_isAdmittedBetween {before after : Text} {c : CodePoint}
    (h : isAdmittedBetween before after c = true) : c.isAscii = false := by
  rw [← Bool.not_eq_true]
  intro hascii
  have hlow : c.val < 128 := of_decide_eq_true hascii
  have hne : ∀ n, 128 ≤ n → (c.val == n) = false := fun n hn => beq_eq_false_iff_ne.mpr (by omega)
  have hrange : ∀ n m, 128 ≤ n → (decide (n ≤ c.val) && decide (c.val ≤ m)) = false := by
    intro n m hn
    rw [decide_eq_false (by omega), Bool.false_and]
  simp [isAdmittedBetween, hne, hrange] at h

theorem isAsciiForm_of_pointsRefusal? {before label : Text}
    (h : pointsRefusal? before label = none) :
    ∀ c ∈ label, c.isAscii = true → IsAsciiForm c := by
  induction label generalizing before with
  | nil => exact fun c hc => absurd hc List.not_mem_nil
  | cons first rest ih =>
    rw [pointsRefusal?] at h
    split_ifs at h with hfirst
    refine List.forall_mem_cons.mpr ⟨fun hascii => ?_, ih h⟩
    rcases Bool.or_eq_true_iff.mp hfirst with hadmissible | hbetween
    · exact isAsciiForm_of_isAdmissible hadmissible hascii
    · rw [isAscii_of_isAdmittedBetween hbetween] at hascii
      cases hascii

theorem isAsciiForm_of_isLabel {label : Text} (h : isLabel label = true) :
    ∀ c ∈ label, c.isAscii = true → IsAsciiForm c := by
  have hnone : refusal? label = none := Option.isNone_iff_eq_none.mp h
  unfold refusal? at hnone
  split at hnone
  · cases hnone
  · split at hnone
    · cases hnone
    next hpoints => exact isAsciiForm_of_pointsRefusal? hpoints

/-! ## Punycode -/

theorem isAsciiForm_digit {n : Nat} (h : n < 36) : IsAsciiForm (Punycode.digit n) := by
  have htable : ∀ n < 36, (Punycode.digit n).isAsciiLetter = true ∨
      (Punycode.digit n).isAsciiDigit = true := by
    decide
  exact (htable n h).imp_right .inl

theorem isAsciiForm_of_digitValue? {c : CodePoint} {value : Nat}
    (h : Punycode.digitValue? c = some value) : IsAsciiForm c := by
  unfold Punycode.digitValue? at h
  split_ifs at h with hlower hupper hdigit
  · exact .inl (Bool.or_eq_true_iff.mpr (.inr hlower))
  · exact .inl (Bool.or_eq_true_iff.mpr (.inl hupper))
  · exact .inr (.inl hdigit)

theorem threshold_pos (bias k : Nat) : 0 < Punycode.threshold bias k := by
  rw [Punycode.threshold]
  omega

theorem threshold_le (bias k : Nat) : Punycode.threshold bias k ≤ 26 := by
  rw [Punycode.threshold]
  omega

/-- A count is written in digits, since it gets smaller with each of them. -/
theorem isAsciiForm_encodeCount {bias fuel k n : Nat} (h : n < fuel) :
    ∀ c ∈ Punycode.encodeCount bias fuel k n, IsAsciiForm c := by
  induction fuel generalizing k n with
  | zero => exact absurd h (Nat.not_lt_zero n)
  | succ fuel ih =>
    have hpos := threshold_pos bias k
    have hle := threshold_le bias k
    rw [Punycode.encodeCount]
    split_ifs with hlast
    · exact List.forall_mem_singleton.mpr (isAsciiForm_digit (by omega))
    · have hmod := Nat.mod_lt (n - Punycode.threshold bias k)
        (show 36 - Punycode.threshold bias k > 0 by omega)
      have hdiv := Nat.div_le_self (n - Punycode.threshold bias k)
        (36 - Punycode.threshold bias k)
      exact List.forall_mem_cons.mpr ⟨isAsciiForm_digit (by omega), ih (by omega)⟩

/-- All digits that were written are of the ASCII form. -/
def IsWritten (p : Punycode.Progress) : Prop := ∀ d ∈ p.digits, IsAsciiForm d

theorem isWritten_pass {point : Nat} {p : Punycode.Progress} (h : IsWritten p) (c : CodePoint) :
    IsWritten (Punycode.pass point p c) := by
  rw [Punycode.pass]
  split_ifs
  · exact h
  · intro d hd
    rcases List.mem_append.mp hd with hd | hd
    · exact isAsciiForm_encodeCount (Nat.lt_succ_self p.delta) d (List.mem_reverse.mp hd)
    · exact h d hd
  · exact h

theorem isWritten_foldl {point : Nat} {p : Punycode.Progress} (h : IsWritten p) (label : Text) :
    IsWritten (label.foldl (Punycode.pass point) p) := by
  induction label generalizing p with
  | nil => exact h
  | cons c rest ih => exact ih (isWritten_pass h c)

theorem isWritten_insertPoints {label : Text} {points : List Nat} {last : Nat}
    {p : Punycode.Progress} (h : IsWritten p) :
    IsWritten (Punycode.insertPoints label last p points) := by
  induction points generalizing last p with
  | nil => exact h
  | cons point rest ih =>
    have hcounted : IsWritten { p with delta := p.delta + (point - last) * (p.handled + 1) } := h
    have hpassed : IsWritten { (label.foldl (Punycode.pass point)
        { p with delta := p.delta + (point - last) * (p.handled + 1) }) with
        delta := (label.foldl (Punycode.pass point)
          { p with delta := p.delta + (point - last) * (p.handled + 1) }).delta + 1 } :=
      isWritten_foldl hcounted label
    exact ih hpassed

/-- What is written for a label are its ASCII code points, a hyphen and digits. -/
theorem isAsciiForm_encode {label : Text} (h : ∀ c ∈ label, c.isAscii = true → IsAsciiForm c) :
    ∀ c ∈ Punycode.encode label, IsAsciiForm c := by
  have hplain : ∀ c ∈ label.filter CodePoint.isAscii, IsAsciiForm c := fun c hc =>
    h c (List.mem_filter.mp hc).1 (List.mem_filter.mp hc).2
  have hstart : IsWritten ⟨72, 0, (label.filter CodePoint.isAscii).length, true, []⟩ :=
    fun d hd => absurd hd List.not_mem_nil
  have hdigits : ∀ c ∈ (Punycode.insertPoints label 0x80
      ⟨72, 0, (label.filter CodePoint.isAscii).length, true, []⟩
      (Punycode.extended label)).digits.reverse, IsAsciiForm c := fun c hc =>
    isWritten_insertPoints hstart c (List.mem_reverse.mp hc)
  intro c hc
  simp only [Punycode.encode] at hc
  split at hc
  · exact hdigits c hc
  · rcases List.mem_append.mp hc with hc | hc
    · rcases List.mem_append.mp hc with hc | hc
      · exact hplain c hc
      · exact .inr (.inr (List.mem_singleton.mp hc))
    · exact hdigits c hc

/-! ### Reading -/

theorem isAsciiForm_of_decodeCount? {bias k weight total n : Nat} {t rest : Text}
    (h : Punycode.decodeCount? bias k weight total t = some (n, rest)) :
    ∃ digits, t = digits ++ rest ∧ ∀ c ∈ digits, IsAsciiForm c := by
  induction t generalizing k weight total with
  | nil => cases h
  | cons c t ih =>
    rw [Punycode.decodeCount?] at h
    obtain ⟨value, hvalue, h⟩ := Option.bind_eq_some_iff.mp h
    have hc := isAsciiForm_of_digitValue? hvalue
    simp only at h
    split_ifs at h
    · cases h
      exact ⟨[c], rfl, List.forall_mem_singleton.mpr hc⟩
    · obtain ⟨digits, rfl, hdigits⟩ := ih h
      exact ⟨c :: digits, rfl, List.forall_mem_cons.mpr ⟨hc, hdigits⟩⟩

/-- What is read are digits, and the code points there already stay. -/
theorem isAsciiForm_of_decodeFrom? {fuel point position bias : Nat} {isFirst : Bool}
    {done t label : Text}
    (h : Punycode.decodeFrom? fuel done point position bias isFirst t = some label) :
    (∀ c ∈ t, IsAsciiForm c) ∧ done ⊆ label := by
  induction fuel generalizing done point position bias isFirst t with
  | zero =>
    cases t with
    | nil =>
      rw [Punycode.decodeFrom?] at h
      cases h
      exact ⟨fun c hc => absurd hc List.not_mem_nil, List.Subset.refl _⟩
    | cons c t => cases h
  | succ fuel ih =>
    cases t with
    | nil =>
      rw [Punycode.decodeFrom?] at h
      cases h
      exact ⟨fun c hc => absurd hc List.not_mem_nil, List.Subset.refl _⟩
    | cons c t =>
      rw [Punycode.decodeFrom?] at h
      obtain ⟨⟨delta, rest⟩, hcount, h⟩ := Option.bind_eq_some_iff.mp h
      obtain ⟨digits, ht, hdigits⟩ := isAsciiForm_of_decodeCount? hcount
      simp only at h
      split_ifs at h
      obtain ⟨hrest, hsub⟩ := ih h
      rw [ht]
      refine ⟨fun d hd => (List.mem_append.mp hd).elim (hdigits d) (hrest d), fun d hd => hsub ?_⟩
      rw [← List.take_append_drop ((position + delta) % (done.length + 1)) done] at hd
      rw [List.mem_append, List.mem_cons]
      exact (List.mem_append.mp hd).imp_right .inr

/-- A text that spells an admissible label is of the ASCII form. -/
theorem isAsciiForm_of_decode? {t label : Text} (hascii : ∀ c ∈ t, c.isAscii = true)
    (h : Punycode.decode? t = some label) (hlabel : isLabel label = true) :
    ∀ c ∈ t, IsAsciiForm c := by
  unfold Punycode.decode? at h
  split at h
  next plain digits hcut =>
    obtain ⟨rfl, -⟩ := Text.cutLast_eq_some_iff.mp hcut
    obtain ⟨hdigits, hsub⟩ := isAsciiForm_of_decodeFrom? h
    intro c hc
    rcases List.mem_append.mp hc with hplain | hc
    · exact isAsciiForm_of_isLabel hlabel c (hsub hplain) (hascii c (List.mem_append_left _ hplain))
    · rcases List.mem_cons.mp hc with rfl | hc
      · exact .inr (.inr rfl)
      · exact hdigits c hc
  next digits hcut =>
    obtain ⟨rfl, -⟩ := Text.cutLast_eq_none_iff.mp hcut
    exact (isAsciiForm_of_decodeFrom? h).1

/-! ## Host names -/

theorem isAsciiForm_of_mem_asciiMarker : ∀ c ∈ asciiMarker, IsAsciiForm c := by
  have htable : asciiMarker.all
      (fun c => c.isAsciiLetter || c.isAsciiDigit || c == ('-' : CodePoint)) = true := by decide
  intro c hc
  have hc := List.all_eq_true.mp htable c hc
  rwa [Bool.or_eq_true, Bool.or_eq_true, beq_iff_eq, or_assoc] at hc

/-- An ASCII label that stands for an admissible one is of the ASCII form. -/
theorem isAsciiForm_of_behind? {label behind : Text} (hascii : ∀ c ∈ label, c.isAscii = true)
    (h : behind? label = some behind) (hlabel : isLabel behind = true) :
    ∀ c ∈ label, IsAsciiForm c := by
  unfold behind? at h
  split at h
  next spelled hspelled =>
    obtain rfl := Text.afterHead?_eq_some_iff.mp hspelled
    split_ifs at h
    intro c hc
    rcases List.mem_append.mp hc with hc | hc
    · exact isAsciiForm_of_mem_asciiMarker c hc
    · exact isAsciiForm_of_decode? (fun d hd => hascii d (List.mem_append_right _ hd)) h hlabel c hc
  · cases h
    exact fun c hc => isAsciiForm_of_isLabel hlabel c hc (hascii c hc)

/-- The ASCII form of a label is made of letters, digits and hyphens. -/
theorem isAsciiForm_of_asciiLabel? {label form : Text} (h : asciiLabel? label = some form) :
    ∀ c ∈ form, IsAsciiForm c := by
  unfold asciiLabel? at h
  cases hascii : label.all CodePoint.isAscii with
  | true =>
    simp only [hascii, if_true, Bool.and_eq_true, decide_eq_true_eq, Option.ite_none_right_eq_some,
      Option.some.injEq] at h
    obtain ⟨⟨hfit, -⟩, rfl⟩ := h
    obtain ⟨behind, hbehind, hlabel⟩ := (Option.any_eq_true _ _).mp hfit
    exact isAsciiForm_of_behind? (List.all_eq_true.mp hascii) hbehind hlabel
  | false =>
    simp only [hascii, Bool.false_eq_true, if_false, Bool.and_eq_true, decide_eq_true_eq,
      Option.ite_none_right_eq_some, Option.some.injEq] at h
    obtain ⟨⟨hlabel, -⟩, rfl⟩ := h
    intro c hc
    rcases List.mem_append.mp hc with hc | hc
    · exact isAsciiForm_of_mem_asciiMarker c hc
    · exact isAsciiForm_encode (isAsciiForm_of_isLabel hlabel) c hc

theorem isAsciiForm_of_mapM {labels forms : List Text}
    (h : labels.mapM asciiLabel? = some forms) : ∀ form ∈ forms, ∀ c ∈ form, IsAsciiForm c := by
  induction labels generalizing forms with
  | nil =>
    cases h
    exact fun form hform => absurd hform List.not_mem_nil
  | cons label rest ih =>
    rw [List.mapM_cons] at h
    obtain ⟨form, hform, h⟩ := Option.bind_eq_some_iff.mp h
    obtain ⟨others, hothers, h⟩ := Option.bind_eq_some_iff.mp h
    cases h
    exact List.forall_mem_cons.mpr ⟨isAsciiForm_of_asciiLabel? hform, ih hothers⟩

/-- **The ASCII form of a host name** is made of letters, digits, hyphens and dots. -/
theorem forall_mem_ascii? {host form : Text} (h : ascii? host = some form) :
    ∀ c ∈ form, IsAsciiForm c ∨ c = '.' := by
  have hjoin : ∀ labels : List Text, (∀ label ∈ labels, ∀ c ∈ label, IsAsciiForm c) →
      ∀ c ∈ Text.join ("." : Text) labels, IsAsciiForm c ∨ c = '.' := by
    intro labels hlabels c hc
    rcases Text.mem_join hc with hdot | ⟨label, hlabel, hc⟩
    · exact .inr (List.mem_singleton.mp hdot)
    · exact .inl (hlabels label hlabel c hc)
  obtain ⟨forms, hforms, hrest⟩ := Option.bind_eq_some_iff.mp h
  have hlabels := isAsciiForm_of_mapM hforms
  simp only [Option.ite_none_left_eq_some, Option.some.injEq] at hrest
  rw [← hrest.2]
  split
  · -- the dot at the end closes an empty label
    refine hjoin _ fun label hlabel => (List.mem_append.mp hlabel).elim (hlabels label) ?_
    intro hnil c hc
    rw [List.mem_singleton.mp hnil] at hc
    exact absurd hc List.not_mem_nil
  · exact hjoin forms hlabels

end Host

end ProfileFilter
