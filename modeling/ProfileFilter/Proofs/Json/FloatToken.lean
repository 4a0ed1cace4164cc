import ProfileFilter.Proofs.Json.Numeral

/-!
# The token of a float

The layout of a float writes `0.digits * 10 ^ point` in one of four forms. Each of them
is a valid numeral whose digits and power make up the same decimal, because the places
the point moves over are exactly the ones the power accounts for (`value_layout`).

The digits a float is shown with read back as that float, unless none do. So the token
of a finite float is a numeral whose value is shown by the same token (`ofFloat?_spec`).
-/

namespace ProfileFilter

namespace Json

namespace Numeral

/-! ## Layouts -/

/-- The letter and the sign of an exponent. -/
def exponentMark (exponent : Int) : Text := if exponent < 0 then "e-" else "e+"

/-- The numeral of the digits `0.digits * 10 ^ point`, laid out as floats are. -/
def layout (negative : Bool) (digits : Text) (point : Int) : Numeral :=
  if point ≤ -4 ∨ point > 16 then
    ⟨negative, digits.take 1, digits.drop 1,
      some (exponentMark (point - 1), Text.padded 2 (point - 1).natAbs)⟩
  else if point ≤ 0 then
    ⟨negative, ['0'], List.replicate point.natAbs ('0' : CodePoint) ++ digits, none⟩
  else if digits.length ≤ point.toNat then
    ⟨negative, digits ++ List.replicate (point.toNat - digits.length) ('0' : CodePoint), ['0'],
      none⟩
  else ⟨negative, digits.take point.toNat, digits.drop point.toNat, none⟩

theorem exponentMark_mem (exponent : Int) : exponentMark exponent ∈ exponentMarks := by
  unfold exponentMark
  split_ifs <;> decide

theorem signedInt_exponentMark (exponent : Int) :
    signedInt ((exponentMark exponent).contains '-') exponent.natAbs = exponent := by
  unfold exponentMark
  split_ifs with h
  · show -(exponent.natAbs : Int) = exponent
    omega
  · show (exponent.natAbs : Int) = exponent
    omega

theorem allDigits_padded (width n : Nat) : (Text.padded width n).AllDigits :=
  (Text.allDigits_replicate _).append (Text.allDigits_ofNat n)

theorem padded_ne_nil (width n : Nat) : Text.padded width n ≠ [] :=
  List.append_ne_nil_of_right_ne_nil _ (Text.ofNat_ne_nil n)

theorem digitsValue_padded (width n : Nat) : (Text.padded width n).digitsValue = n := by
  rw [Text.padded, Text.digitsValue_zeros_append, Text.digitsValue_ofNat]

theorem fractionText_of_ne_nil {digits : Text} (h : digits ≠ []) :
    fractionText digits = ('.' : CodePoint) :: digits := by
  cases digits with
  | nil => exact absurd rfl h
  | cons c digits => rfl

theorem fractionText_drop_one (digits : Text) :
    fractionText (digits.drop 1) =
      if digits.length ≤ 1 then [] else ('.' : CodePoint) :: digits.drop 1 := by
  split_ifs with h
  · rw [List.drop_eq_nil_of_le h]
    rfl
  · exact fractionText_of_ne_nil fun hnil => h (List.drop_eq_nil_iff.mp hnil)

variable {digits : Text} {point : Int}

theorem negative_layout (negative : Bool) :
    (layout negative digits point).negative = negative := by
  unfold layout
  split_ifs <;> rfl

theorem magnitude_layout (negative : Bool) (hdigits : digits ≠ []) :
    (layout negative digits point).magnitude = Binary64.layout digits point := by
  unfold layout Binary64.layout
  simp only [Bool.or_eq_true, decide_eq_true_eq]
  by_cases hform : point ≤ -4 ∨ point > 16
  · simp only [if_pos hform, magnitude, fractionText_drop_one, exponentText, List.append_assoc]
    rfl
  simp only [if_neg hform]
  split_ifs with hpoint hlong
  · simp only [magnitude, exponentText, List.append_nil, List.append_assoc]
    rw [fractionText_of_ne_nil (List.append_ne_nil_of_right_ne_nil _ hdigits)]
    rfl
  · simp only [magnitude, exponentText, List.append_nil]
    rfl
  · simp only [magnitude, exponentText, List.append_nil, List.append_assoc]
    rw [fractionText_of_ne_nil fun hnil => hlong (List.drop_eq_nil_iff.mp hnil)]
    rfl

theorem isValid_layout (negative : Bool) (hdigits : digits.AllDigits) {c : CodePoint} {rest : Text}
    (hcons : digits = c :: rest) (hc : c ≠ ('0' : CodePoint)) :
    (layout negative digits point).IsValid := by
  have hzero : Text.AllDigits ['0'] := Text.allDigits_replicate 1
  have hne : digits ≠ [] := hcons ▸ List.cons_ne_nil c rest
  unfold layout
  split_ifs with hform hpoint hlong
  · exact {
      whole := fun d hd => hdigits d (List.mem_of_mem_take hd)
      leading := .inr ⟨c, [], by rw [hcons]; rfl, hc⟩
      fraction := fun d hd => hdigits d (List.mem_of_mem_drop hd)
      exponent := by
        rintro mark _ ⟨⟩
        exact ⟨exponentMark_mem _, allDigits_padded 2 _, padded_ne_nil 2 _⟩
      short := fun h => by simp [isInteger] at h }
  · exact {
      whole := hzero
      leading := .inl rfl
      fraction := (Text.allDigits_replicate _).append hdigits
      exponent := fun mark digits h => by cases h
      short := fun h => by simp [isInteger, hne] at h }
  · exact {
      whole := hdigits.append (Text.allDigits_replicate _)
      leading := .inr ⟨c, _, by rw [hcons]; rfl, hc⟩
      fraction := hzero
      exponent := fun mark digits h => by cases h
      short := fun h => by simp [isInteger] at h }
  · exact {
      whole := fun d hd => hdigits d (List.mem_of_mem_take hd)
      leading := .inr ⟨c, rest.take (point.toNat - 1), by
        rw [hcons, List.take_cons (by omega)], hc⟩
      fraction := fun d hd => hdigits d (List.mem_of_mem_drop hd)
      exponent := fun mark digits h => by cases h
      short := fun h => by simp [isInteger] at h; omega }

/-- A numeral with a fraction or an exponent is a float. -/
theorem value_eq_float {n : Numeral} (h : n.isInteger = false) :
    n.value = .float (Binary64.ofDecimal n.negative (n.whole ++ n.fraction).digitsValue
      (exponentValue n.exponent - n.fraction.length)) := by
  rw [value, h]
  rfl

theorem isInteger_eq_false {n : Numeral} (h : n.fraction ≠ []) : n.isInteger = false := by
  rw [isInteger, List.isEmpty_eq_false_iff.mpr h]
  rfl

/-- **The layout is the decimal it lays out.** -/
theorem value_layout (negative : Bool) (hdigits : digits ≠ []) :
    (layout negative digits point).value =
      .float (Binary64.ofDecimal negative digits.digitsValue (point - digits.length)) := by
  have hlength := List.length_pos_iff.mpr hdigits
  unfold layout
  split_ifs with hform hpoint hlong
  · -- exponent form: the point stands after the first digit
    rw [value_eq_float (by simp [isInteger])]
    dsimp only
    rw [List.take_append_drop, exponentValue, digitsValue_padded, signedInt_exponentMark,
      List.length_drop]
    congr 2
    omega
  · -- below one: the zeros in front do not count
    rw [value_eq_float (isInteger_eq_false (List.append_ne_nil_of_right_ne_nil _ hdigits))]
    dsimp only
    rw [List.singleton_append, ← List.cons_append, ← List.replicate_succ,
      Text.digitsValue_zeros_append, exponentValue, List.length_append, List.length_replicate]
    congr 2
    omega
  · -- a whole number: the zeros at the end move into the power
    rw [value_eq_float (isInteger_eq_false (List.cons_ne_nil _ _))]
    dsimp only
    rw [List.append_assoc, ← List.replicate_succ', Text.digitsValue_append_zeros,
      Binary64.ofDecimal_mul_pow, exponentValue, List.length_singleton]
    congr 2
    omega
  · -- the point stands between the digits
    rw [value_eq_float (isInteger_eq_false fun hnil => hlong (List.drop_eq_nil_iff.mp hnil))]
    dsimp only
    rw [List.take_append_drop, exponentValue, List.length_drop]
    congr 2
    omega

end Numeral

/-! ## The digits a float is shown with -/

/-- The digits found read back as the number they were looked for. -/
theorem ofDecimal_of_decimalOf? {mantissa count digits : Nat} {exponent power : Int}
    (h : Binary64.decimalOf? mantissa exponent count = some (digits, power)) :
    Binary64.ofDecimal false digits power = .finite false mantissa exponent := by
  unfold Binary64.decimalOf? at h
  extract_lets r place scaled below readsBack nearest other at h
  split_ifs at h with hnearest hother
  · obtain ⟨rfl, rfl⟩ := Prod.mk.inj (Option.some.inj h)
    exact beq_iff_eq.mp hnearest
  · obtain ⟨rfl, rfl⟩ := Prod.mk.inj (Option.some.inj h)
    exact beq_iff_eq.mp hother

/-- The digits a number is shown with read back as it, unless none do; then they are a zero. -/
theorem shortestDecimal_spec (mantissa : Nat) (exponent : Int) :
    Binary64.shortestDecimal mantissa exponent = (0, 0) ∨
      ∀ negative, Binary64.ofDecimal negative (Binary64.shortestDecimal mantissa exponent).1
        (Binary64.shortestDecimal mantissa exponent).2 = .finite negative mantissa exponent := by
  unfold Binary64.shortestDecimal
  cases hfound : (List.range 17).findSome? fun n =>
      Binary64.decimalOf? mantissa exponent (n + 1) with
  | none => exact .inl rfl
  | some found =>
    obtain ⟨n, -, hn⟩ := List.exists_of_findSome?_eq_some hfound
    refine .inr fun negative => ?_
    rw [Binary64.ofDecimal_eq_withSign, Option.getD_some, ofDecimal_of_decimalOf? hn]
    rfl

namespace Numeral

/-- The numeral of a zero with the given sign. -/
def zero (negative : Bool) : Numeral := ⟨negative, ['0'], ['0'], none⟩

/-- The numeral of a finite float; the others have none. -/
def ofFloat? : Binary64 → Option Numeral
  | .finite negative mantissa exponent =>
    let (digits, power) := Binary64.shortestDecimal mantissa exponent
    if mantissa = 0 ∨ digits = 0 then some (zero negative)
    else some (layout negative (Binary64.dropZeros (Text.ofNat digits))
      ((Text.ofNat digits).length + power))
  | _ => none

theorem exists_ofFloat?_eq_some (negative : Bool) (mantissa : Nat) (exponent : Int) :
    ∃ n, ofFloat? (.finite negative mantissa exponent) = some n := by
  simp only [ofFloat?]
  split_ifs <;> exact ⟨_, rfl⟩

theorem isValid_zero (negative : Bool) : (zero negative).IsValid where
  whole := Text.allDigits_replicate 1
  leading := .inl rfl
  fraction := Text.allDigits_replicate 1
  exponent := fun mark digits h => by cases h
  short := fun h => by cases h

theorem value_zero (negative : Bool) :
    (zero negative).value = .float (.finite negative 0 (-1074)) := rfl

/-- What is left of a positive number without the zeros at its end. -/
theorem exists_dropZeros_eq_cons {n : Nat} (h : 0 < n) :
    ∃ c rest, Binary64.dropZeros (Text.ofNat n) = c :: rest ∧ c ≠ ('0' : CodePoint) := by
  obtain ⟨j, hj⟩ := Text.eq_dropTrailing_append '0' (Text.ofNat n)
  obtain ⟨c, rest, hcons, hc⟩ := Text.exists_ofNat_eq_cons h
  rw [hcons] at hj
  cases hdrop : Text.dropTrailing '0' (Text.ofNat n) with
  | nil =>
    rw [hcons] at hdrop
    rw [hdrop, List.nil_append] at hj
    exact absurd (List.eq_of_mem_replicate (hj ▸ List.mem_cons_self)) hc
  | cons d others =>
    rw [hcons] at hdrop
    rw [hdrop, List.cons_append] at hj
    exact ⟨d, others, by rw [Binary64.dropZeros, hcons, hdrop], (List.cons.inj hj).1 ▸ hc⟩

/-- **A number laid out without the zeros at its end** has the value of all its digits. -/
theorem layout_dropZeros_spec (negative : Bool) {n : Nat} (h : 0 < n) (power : Int) :
    (layout negative (Binary64.dropZeros (Text.ofNat n))
        ((Text.ofNat n).length + power)).IsValid ∧
      (layout negative (Binary64.dropZeros (Text.ofNat n))
        ((Text.ofNat n).length + power)).value = .float (Binary64.ofDecimal negative n power) := by
  obtain ⟨c, rest, hcons, hc⟩ := exists_dropZeros_eq_cons h
  obtain ⟨j, hj⟩ := Text.eq_dropTrailing_append '0' (Text.ofNat n)
  rw [← Binary64.dropZeros] at hj
  have hdigits : (Binary64.dropZeros (Text.ofNat n)).AllDigits := fun d hd =>
    Text.allDigits_ofNat n d (hj ▸ List.mem_append_left _ hd)
  refine ⟨isValid_layout negative hdigits hcons hc, ?_⟩
  have hn : n = (Binary64.dropZeros (Text.ofNat n)).digitsValue * 10 ^ j := by
    rw [← Text.digitsValue_append_zeros, ← hj, Text.digitsValue_ofNat]
  have hlength : (Text.ofNat n).length = (Binary64.dropZeros (Text.ofNat n)).length + j := by
    conv_lhs => rw [hj]
    rw [List.length_append, List.length_replicate]
  conv_rhs => rw [hn, Binary64.ofDecimal_mul_pow]
  rw [value_layout negative (hcons ▸ List.cons_ne_nil c rest), hlength]
  congr 2
  omega

theorem text_eq (n : Numeral) : n.text = (if n.negative then "-" else "" : Text) ++ n.magnitude := by
  unfold text
  split_ifs <;> rfl

/-- Digits that make up zero belong to a zero, or to a number that no digits read back as;
both are shown as zero. -/
theorem shown_of_zero {mantissa : Nat} {exponent : Int} (negative : Bool)
    (h : mantissa = 0 ∨ (Binary64.shortestDecimal mantissa exponent).1 = 0) :
    (Binary64.finite negative mantissa exponent).shown = (zero negative).text := by
  rw [text_eq, Binary64.shown]
  rcases Nat.eq_zero_or_pos mantissa with rfl | hpos
  · rfl
  · have hdigits := h.resolve_left hpos.ne'
    have hshort : Binary64.shortestDecimal mantissa exponent = (0, 0) := by
      refine (shortestDecimal_spec mantissa exponent).resolve_right fun hback => ?_
      have hfinite := hback negative
      rw [hdigits, Binary64.ofDecimal_zero] at hfinite
      injection hfinite with _ hmantissa _
      exact hpos.ne hmantissa
    rw [hshort, if_neg (by simpa using hpos.ne')]
    rfl

/-- **The token of a finite float is a numeral**, and reading it gives a float with the
same token. -/
theorem ofFloat?_spec {x : Binary64} {n : Numeral} (h : ofFloat? x = some n) :
    n.IsValid ∧ n.text = x.shown ∧ ∃ y, n.value = .float y ∧ y.shown = x.shown := by
  cases x with
  | nan => cases h
  | infinite negative => cases h
  | finite negative mantissa exponent =>
    unfold ofFloat? at h
    simp only at h
    split_ifs at h with hzero
    · obtain rfl := Option.some.inj h
      have hshown := shown_of_zero negative hzero
      refine ⟨isValid_zero negative, hshown.symm, _, value_zero negative, ?_⟩
      rw [hshown, shown_of_zero negative (.inl rfl)]
    · obtain rfl := Option.some.inj h
      obtain ⟨hmantissa, hdigits⟩ := not_or.mp hzero
      have hback := (shortestDecimal_spec mantissa exponent).resolve_left
        (fun hnone => hdigits (by rw [hnone])) negative
      obtain ⟨hvalid, hvalue⟩ := layout_dropZeros_spec negative (Nat.pos_of_ne_zero hdigits)
        (Binary64.shortestDecimal mantissa exponent).2
      obtain ⟨c, rest, hcons, -⟩ := exists_dropZeros_eq_cons (Nat.pos_of_ne_zero hdigits)
      refine ⟨hvalid, ?_, _, hback ▸ hvalue, rfl⟩
      have hshown : (Binary64.finite negative mantissa exponent).shown =
          (if negative then "-" else "" : Text) ++ Binary64.layout
            (Binary64.dropZeros (Text.ofNat (Binary64.shortestDecimal mantissa exponent).1))
            ((Text.ofNat (Binary64.shortestDecimal mantissa exponent).1).length +
              (Binary64.shortestDecimal mantissa exponent).2) :=
        if_neg (by simpa using hmantissa)
      rw [hshown, text_eq, negative_layout,
        magnitude_layout negative (hcons ▸ List.cons_ne_nil c rest)]

end Numeral

end Json

end ProfileFilter
