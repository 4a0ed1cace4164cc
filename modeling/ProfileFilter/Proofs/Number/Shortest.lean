import ProfileFilter.Proofs.Number.Rounding

/-!
# Seventeen digits suffice

A number is shown by the fewest digits that read back as it, and the search for them ends at
seventeen. Here it is shown to end before it fails: the seventeen digits nearest to a number always
read back as it (`exists_decimalOf?_eq_some`).

They are off by half a unit of the last digit at most, so by one part in `2 * 10 ^ 16`. A mantissa
is below `2 ^ 53`, and one part in `2 * 10 ^ 16` of it is less than a half; so the mantissa is
rounded back to what it was (`IsNear.ofRatio_eq`). All this is about numbers in the form in which
they are kept (`IsCanonical`), and rounding yields no others (`isCanonical_ofDecimal`).
-/

namespace ProfileFilter

/-! ## The nearest integer -/

namespace Ratio

variable {r : Ratio}

/-- Rounding moves a fraction by a half at most. -/
theorem abs_roundHalfEven_sub_le (h : 0 < r.den) : |(r.roundHalfEven : ℚ) - r.toRat| ≤ 1 / 2 := by
  have hden : (0 : ℚ) < r.den := by exact_mod_cast h
  have hsplit : r.toRat = (r.num / r.den : Nat) + ((r.num % r.den : Nat) : ℚ) / r.den := by
    rw [toRat, div_eq_iff hden.ne', add_mul, div_mul_cancel₀ _ hden.ne']
    exact_mod_cast (Nat.div_add_mod' r.num r.den).symm
  have hrest : ((r.num % r.den : Nat) : ℚ) / r.den * r.den = (r.num % r.den : Nat) :=
    div_mul_cancel₀ _ hden.ne'
  have hpos : (0 : ℚ) ≤ ((r.num % r.den : Nat) : ℚ) / r.den := by positivity
  have hbelow : ((r.num % r.den : Nat) : ℚ) < r.den := by exact_mod_cast Nat.mod_lt _ h
  rw [hsplit]
  simp only [roundHalfEven]
  split_ifs with hup
  · have htwice : (r.den : ℚ) ≤ 2 * (r.num % r.den : Nat) := by
      rw [Bool.or_eq_true, Bool.and_eq_true, decide_eq_true_eq, beq_iff_eq] at hup
      have hle : r.den ≤ 2 * (r.num % r.den) := by omega
      exact_mod_cast hle
    rw [abs_le]
    push_cast
    constructor <;> nlinarith
  · have htwice : 2 * ((r.num % r.den : Nat) : ℚ) ≤ r.den := by
      rw [Bool.or_eq_true, not_or, decide_eq_true_eq] at hup
      exact_mod_cast Nat.not_lt.mp hup.1
    rw [abs_le]
    constructor <;> nlinarith

/-- A fraction less than a half away from an integer is rounded to it. -/
theorem roundHalfEven_eq_of_abs_lt (h : 0 < r.den) {n : Nat} (hn : |r.toRat - n| < 1 / 2) :
    r.roundHalfEven = n := by
  have hnear := abs_roundHalfEven_sub_le h
  rw [abs_lt] at hn
  rw [abs_le] at hnear
  have hlow : (n : ℚ) < r.roundHalfEven + 1 := by linarith [hn.1, hnear.1]
  have hhigh : (r.roundHalfEven : ℚ) < n + 1 := by linarith [hn.2, hnear.2]
  have hlow' : n < r.roundHalfEven + 1 := by exact_mod_cast hlow
  have hhigh' : r.roundHalfEven < n + 1 := by exact_mod_cast hhigh
  omega

/-- Rounding keeps bounds that are integers. -/
theorem roundHalfEven_le (h : 0 < r.den) {n : Nat} (hn : r.toRat ≤ n) : r.roundHalfEven ≤ n := by
  have hnear := (abs_le.mp (abs_roundHalfEven_sub_le h)).2
  have hlt : (r.roundHalfEven : ℚ) < (n + 1 : ℕ) := by
    push_cast
    linarith
  exact Nat.lt_succ_iff.mp (by exact_mod_cast hlt)

theorem le_roundHalfEven_of_le (h : 0 < r.den) {n : Nat} (hn : (n : ℚ) ≤ r.toRat) :
    n ≤ r.roundHalfEven := by
  have hnear := (abs_le.mp (abs_roundHalfEven_sub_le h)).1
  have hlt : (n : ℚ) < (r.roundHalfEven + 1 : ℕ) := by
    push_cast
    linarith
  exact Nat.lt_succ_iff.mp (by exact_mod_cast hlt)

theorem atLeastOne_iff (h : 0 < r.den) : r.atLeastOne = true ↔ 1 ≤ r.toRat := by
  rw [atLeastOne, decide_eq_true_eq, toRat, le_div_iff₀ (by exact_mod_cast h), one_mul]
  exact_mod_cast Iff.rfl

end Ratio

namespace Binary64

open Ratio

variable {r : Ratio} {mantissa : Nat} {exponent : Int}

/-! ## The form in which numbers are kept -/

/-- The form in which numbers are kept: the mantissa has 53 bits, the first of them set unless the
exponent is the least one. -/
def IsCanonical : Binary64 → Prop
  | .finite _ mantissa exponent => mantissa < 2 ^ 53 ∧ -1074 ≤ exponent ∧ exponent ≤ 971 ∧
      (2 ^ 52 ≤ mantissa ∨ exponent = -1074)
  | _ => True

theorem isCanonical_zero (negative : Bool) : (finite negative 0 (-1074)).IsCanonical :=
  ⟨by decide, by decide, by decide, .inr rfl⟩

/-- A fraction is scaled to less than `2 ^ 53`. -/
theorem toRat_scale_ulpExponent_lt (hnum : 0 < r.num) (hden : 0 < r.den) :
    (r.scale 2 (-ulpExponent r)).toRat < (2 ^ 53 : ℕ) := by
  obtain ⟨e, he, -, hhigh⟩ := exists_ulpExponent_eq hnum hden
  rw [toRat_scale, Nat.cast_ofNat]
  calc r.toRat * (2 : ℚ) ^ (-ulpExponent r)
      < (2 : ℚ) ^ (e + 53) * 2 ^ (-ulpExponent r) := by gcongr
    _ = (2 : ℚ) ^ (e + 53 - ulpExponent r) := by rw [← zpow_add₀ two_ne_zero]; rfl
    _ ≤ (2 : ℚ) ^ (53 : Int) := zpow_le_zpow_right₀ one_le_two (by omega)
    _ = (2 ^ 53 : ℕ) := by norm_num

/-- And to no less than `2 ^ 52`, unless the least exponent allows no more. -/
theorem le_toRat_scale_ulpExponent (hnum : 0 < r.num) (hden : 0 < r.den)
    (h : ulpExponent r ≠ -1074) : (2 ^ 52 : ℕ) ≤ (r.scale 2 (-ulpExponent r)).toRat := by
  obtain ⟨e, he, hlow, -⟩ := exists_ulpExponent_eq hnum hden
  have hexponent : ulpExponent r = e := by omega
  rw [toRat_scale, Nat.cast_ofNat, hexponent]
  calc ((2 ^ 52 : ℕ) : ℚ) = (2 : ℚ) ^ (e + 52) * 2 ^ (-e) := by
        rw [← zpow_add₀ two_ne_zero, show e + 52 + -e = (52 : ℕ) by push_cast; ring, zpow_natCast]
        norm_num
    _ ≤ r.toRat * (2 : ℚ) ^ (-e) := by gcongr

/-- **Rounding yields canonical numbers.** -/
theorem isCanonical_ofRatio (negative : Bool) (hden : 0 < r.den) :
    (ofRatio negative r).IsCanonical := by
  rcases Nat.eq_zero_or_pos r.num with hzero | hnum
  · rw [ofRatio, hzero]
    exact isCanonical_zero negative
  have hdenscaled := den_scale_pos (r := r) hden two_pos (-ulpExponent r)
  have hupper : (r.scale 2 (-ulpExponent r)).roundHalfEven ≤ 2 ^ 53 :=
    roundHalfEven_le hdenscaled (toRat_scale_ulpExponent_lt hnum hden).le
  have hlower : ulpExponent r ≠ -1074 → 2 ^ 52 ≤ (r.scale 2 (-ulpExponent r)).roundHalfEven :=
    fun hnormal => le_roundHalfEven_of_le hdenscaled
      (le_toRat_scale_ulpExponent hnum hden hnormal)
  have hexponent : -1074 ≤ ulpExponent r := le_max_right _ _
  have hleast : leastNormal = 2 ^ 52 := rfl
  simp only [ofRatio, beq_iff_eq, hnum.ne', if_false]
  split_ifs with hfull hlarge hlarge
  · trivial
  · show leastNormal < 2 ^ 53 ∧ -1074 ≤ ulpExponent r + 1 ∧ ulpExponent r + 1 ≤ 971 ∧
      (2 ^ 52 ≤ leastNormal ∨ ulpExponent r + 1 = -1074)
    omega
  · trivial
  · refine ⟨by omega, hexponent, by omega, ?_⟩
    by_cases hsmall : ulpExponent r = -1074
    · exact .inr hsmall
    · exact .inl (hlower hsmall)

theorem isCanonical_ofDecimal (negative : Bool) (digits : Nat) (power : Int) :
    (ofDecimal negative digits power).IsCanonical := by
  simp only [ofDecimal]
  split_ifs
  · exact isCanonical_zero negative
  · trivial
  · exact isCanonical_ofRatio negative (den_scale_pos Nat.one_pos (by decide) _)

/-! ## Reading back -/

section Powers

variable {q : ℚ} {e f : ℤ} {k : ℕ}

theorem lt_of_zpow_lt (h : (2 : ℚ) ^ e < 2 ^ f) : e < f :=
  (zpow_lt_zpow_iff_right₀ one_lt_two).mp h

theorem eq_scaled_mul (q : ℚ) (e : ℤ) : q * (2 : ℚ) ^ (-e) * 2 ^ e = q := by
  rw [mul_assoc, ← zpow_add₀ two_ne_zero, neg_add_cancel, zpow_zero, mul_one]

theorem lt_zpow_add_iff : q < (2 : ℚ) ^ (e + k) ↔ q * (2 : ℚ) ^ (-e) < 2 ^ k := by
  conv_lhs => rw [← eq_scaled_mul q e, add_comm, zpow_add₀ two_ne_zero, zpow_natCast]
  exact mul_lt_mul_iff_left₀ (by positivity)

theorem zpow_add_lt_iff : (2 : ℚ) ^ (e + k) < q ↔ (2 : ℚ) ^ k < q * (2 : ℚ) ^ (-e) := by
  conv_lhs => rw [← eq_scaled_mul q e, add_comm, zpow_add₀ two_ne_zero, zpow_natCast]
  exact mul_lt_mul_iff_left₀ (by positivity)

end Powers

/-- A fraction near a canonical number: the two differ by one part in `2 * 10 ^ 16` at most. -/
structure IsNear (r : Ratio) (mantissa : Nat) (exponent : Int) : Prop where
  /-- the number is canonical -/
  canonical : (finite false mantissa exponent).IsCanonical
  /-- and positive -/
  pos : 0 < mantissa
  /-- the fraction has a denominator -/
  den_pos : 0 < r.den
  /-- measured in units of the last bit of the mantissa -/
  near : |r.toRat * (2 : ℚ) ^ (-exponent) - mantissa| ≤ mantissa / (2 * 10 ^ 16)

namespace IsNear

variable (h : IsNear r mantissa exponent)
include h

theorem mantissa_le : (mantissa : ℚ) ≤ 2 ^ 53 - 1 := by
  have hcast : ((mantissa + 1 : ℕ) : ℚ) ≤ (2 ^ 53 : ℕ) := by exact_mod_cast h.canonical.1
  push_cast at hcast
  linarith

/-- The difference is less than a half of the last bit. -/
theorem abs_sub_lt : |r.toRat * (2 : ℚ) ^ (-exponent) - mantissa| < 1 / 2 := by
  have hmantissa := h.mantissa_le
  refine lt_of_le_of_lt h.near ?_
  rw [div_lt_iff₀ (by norm_num)]
  linarith

theorem num_pos : 0 < r.num := by
  rw [Nat.pos_iff_ne_zero, Ne, ← toRat_eq_zero_iff h.den_pos]
  intro hzero
  have habs := h.abs_sub_lt
  have hone : (1 : ℚ) ≤ mantissa := by exact_mod_cast h.pos
  rw [hzero, zero_mul, zero_sub, abs_neg, abs_of_nonneg (by positivity)] at habs
  linarith

/-- The exponent is found again. Only just below a power of two, where the mantissa is the least
there is, it is one less. -/
theorem ulpExponent_eq : ulpExponent r = exponent ∨
    (mantissa = 2 ^ 52 ∧ -1074 < exponent ∧ ulpExponent r = exponent - 1) := by
  obtain ⟨-, hleast, -, hnormal⟩ := h.canonical
  obtain ⟨hbelow, habove⟩ := abs_lt.mp h.abs_sub_lt
  obtain ⟨e, he, hlow, hhigh⟩ := exists_ulpExponent_eq h.num_pos h.den_pos
  have hupper : e ≤ exponent := by
    have hnear := (abs_le.mp h.near).2
    rw [le_div_iff₀ (by norm_num)] at hnear
    have hscaled : r.toRat < (2 : ℚ) ^ (exponent + (53 : ℕ)) :=
      lt_zpow_add_iff.mpr (by linarith [h.mantissa_le])
    have hlt := lt_of_zpow_lt (lt_of_le_of_lt hlow hscaled)
    push_cast at hlt
    omega
  rcases eq_or_lt_of_le hleast with hsmall | hlarge
  · exact .inl (by omega)
  -- the mantissa has its first bit set, so the exponent is at most one less
  have hfirst : 2 ^ 52 ≤ mantissa := hnormal.resolve_right hlarge.ne'
  have hfirst' : (2 : ℚ) ^ 52 ≤ mantissa := by exact_mod_cast hfirst
  have hlower : exponent - 1 ≤ e := by
    have hscaled : (2 : ℚ) ^ (exponent + (51 : ℕ)) < r.toRat :=
      zpow_add_lt_iff.mpr (by linarith)
    have hlt := lt_of_zpow_lt (hscaled.trans hhigh)
    push_cast at hlt
    omega
  rcases eq_or_lt_of_le hupper with heq | hless
  · exact .inl (by omega)
  · refine .inr ⟨?_, hlarge, by omega⟩
    have hscaled : r.toRat * (2 : ℚ) ^ (-exponent) < (2 : ℚ) ^ 52 := by
      refine lt_zpow_add_iff.mp (lt_of_lt_of_eq hhigh ?_)
      congr 1
      push_cast
      omega
    have hlt : (mantissa : ℚ) < (2 ^ 52 + 1 : ℕ) := by
      push_cast
      linarith
    have hle : mantissa < 2 ^ 52 + 1 := by exact_mod_cast hlt
    omega

end IsNear

/-- **What is near a number is rounded to it.** -/
theorem IsNear.ofRatio_eq (h : IsNear r mantissa exponent) :
    ofRatio false r = .finite false mantissa exponent := by
  obtain ⟨hbits, -, hlargest, -⟩ := h.canonical
  have hleast : leastNormal = 2 ^ 52 := rfl
  simp only [ofRatio, beq_iff_eq, h.num_pos.ne', if_false]
  rcases h.ulpExponent_eq with hexponent | ⟨hmantissa, hlarge, hexponent⟩
  · have hround : (r.scale 2 (-exponent)).roundHalfEven = mantissa := by
      refine roundHalfEven_eq_of_abs_lt (den_scale_pos h.den_pos two_pos _) ?_
      rw [toRat_scale, Nat.cast_ofNat]
      exact h.abs_sub_lt
    have hshort : ¬ mantissa = 2 * leastNormal := by omega
    simp only [hexponent, hround, if_neg hshort]
    exact if_neg (by omega)
  · -- the fraction is rounded up to the power of two
    have hround : (r.scale 2 (-(exponent - 1))).roundHalfEven = 2 ^ 53 := by
      refine roundHalfEven_eq_of_abs_lt (den_scale_pos h.den_pos two_pos _) ?_
      have hdouble : (2 : ℚ) ^ (-(exponent - 1)) = 2 * 2 ^ (-exponent) := by
        rw [show -(exponent - 1) = 1 + -exponent by ring, zpow_add₀ two_ne_zero, zpow_one]
      have hnear := abs_le.mp h.near
      rw [hmantissa] at hnear
      rw [toRat_scale, Nat.cast_ofNat, hdouble, abs_lt]
      norm_num at hnear ⊢
      constructor <;> linarith [hnear.1, hnear.2]
    have hfull : 2 ^ 53 = 2 * leastNormal := by omega
    simp only [hexponent, hround, if_pos hfull, sub_add_cancel, hmantissa]
    exact if_neg (by omega)

/-! ## The search -/

/-- The digits of a positive number are as many as its size says. -/
theorem pow_le_and_lt_pow_length {n : Nat} (h : 0 < n) :
    10 ^ ((Nat.toDigits 10 n).length - 1) ≤ n ∧ n < 10 ^ (Nat.toDigits 10 n).length := by
  have hlength : (Text.ofNat n).length = (Nat.toDigits 10 n).length := List.length_map _
  have hpos : 0 < (Nat.toDigits 10 n).length := List.length_pos_iff.mpr Nat.toDigits_ne_nil
  constructor
  · by_contra hlt
    rcases Nat.eq_zero_or_pos ((Nat.toDigits 10 n).length - 1) with hzero | hone
    · rw [hzero, pow_zero] at hlt
      omega
    · have hle := Text.length_ofNat_le hone (Nat.lt_of_not_le hlt)
      omega
  · have hlt := Text.digitsValue_lt_pow (Text.allDigits_ofNat n)
    rwa [Text.digitsValue_ofNat, hlength] at hlt

theorem zpow_le_and_lt_zpow_length {n : Nat} (h : 0 < n) :
    (10 : ℚ) ^ ((Nat.toDigits 10 n).length - 1 : ℤ) ≤ n ∧
      (n : ℚ) < (10 : ℚ) ^ ((Nat.toDigits 10 n).length : ℤ) := by
  obtain ⟨hlow, hhigh⟩ := pow_le_and_lt_pow_length h
  have hpos : 1 ≤ (Nat.toDigits 10 n).length := List.length_pos_iff.mpr Nat.toDigits_ne_nil
  rw [← Nat.cast_one, ← Nat.cast_sub hpos, zpow_natCast, zpow_natCast]
  exact ⟨by exact_mod_cast hlow, by exact_mod_cast hhigh⟩

/-- The numbers of digits of numerator and denominator enclose the value. -/
theorem toRat_between_pow (hnum : 0 < r.num) (hden : 0 < r.den) :
    (10 : ℚ) ^ ((Nat.toDigits 10 r.num).length - (Nat.toDigits 10 r.den).length - 1 : ℤ) <
        r.toRat ∧
      r.toRat <
        (10 : ℚ) ^ ((Nat.toDigits 10 r.num).length - (Nat.toDigits 10 r.den).length + 1 : ℤ) := by
  obtain ⟨hnumLow, hnumHigh⟩ := zpow_le_and_lt_zpow_length hnum
  obtain ⟨hdenLow, hdenHigh⟩ := zpow_le_and_lt_zpow_length hden
  have hden' : (0 : ℚ) < r.den := by exact_mod_cast hden
  have ten : (10 : ℚ) ≠ 0 := by norm_num
  set a : ℤ := ((Nat.toDigits 10 r.num).length : ℤ)
  set b : ℤ := ((Nat.toDigits 10 r.den).length : ℤ)
  rw [toRat, lt_div_iff₀ hden', div_lt_iff₀ hden']
  constructor
  · calc (10 : ℚ) ^ (a - b - 1) * r.den < (10 : ℚ) ^ (a - b - 1) * 10 ^ b := by gcongr
      _ = (10 : ℚ) ^ (a - 1) := by
          rw [← zpow_add₀ ten]
          congr 1
          ring
      _ ≤ r.num := hnumLow
  · calc (r.num : ℚ) < (10 : ℚ) ^ a := hnumHigh
      _ = (10 : ℚ) ^ (a - b + 1) * 10 ^ (b - 1) := by
          rw [← zpow_add₀ ten]
          congr 1
          ring
      _ ≤ (10 : ℚ) ^ (a - b + 1) * r.den := by gcongr

/-- **The position of the decimal point** of a fraction. -/
theorem pointPosition_spec (hnum : 0 < r.num) (hden : 0 < r.den) :
    (10 : ℚ) ^ (pointPosition r - 1) ≤ r.toRat ∧ r.toRat < (10 : ℚ) ^ pointPosition r := by
  obtain ⟨hlow, hhigh⟩ := toRat_between_pow hnum hden
  set guess : ℤ := ((Nat.toDigits 10 r.num).length : ℤ) - (Nat.toDigits 10 r.den).length
    with hguess
  have htest : (r.scale 10 (-guess)).atLeastOne = true ↔ (10 : ℚ) ^ guess ≤ r.toRat := by
    rw [atLeastOne_iff (den_scale_pos hden (by decide) _), toRat_scale, Nat.cast_ofNat, zpow_neg,
      le_mul_inv_iff₀ (by positivity), one_mul]
  have hunfold : pointPosition r =
      if (r.scale 10 (-guess)).atLeastOne then guess + 1 else guess := rfl
  rw [hunfold]
  -- the guess is right or one too low, and the test says which
  split_ifs with h
  · rw [add_sub_cancel_right]
    exact ⟨htest.mp h, hhigh⟩
  · exact ⟨hlow.le, not_le.mp fun hle => h (htest.mpr hle)⟩

theorem toRat_magnitude (mantissa : Nat) (exponent : Int) :
    (magnitude mantissa exponent).toRat = mantissa * (2 : ℚ) ^ exponent := by
  rw [magnitude, toRat_scale, toRat, Nat.cast_one, div_one, Nat.cast_ofNat]

/-- The least number of the format is above `10 ^ -324`. -/
theorem zpow_lt_of_least : (10 : ℚ) ^ (-324 : ℤ) ≤ 2 ^ (-1074 : ℤ) := by
  have hle : 2 ^ 1074 ≤ 10 ^ 324 := by decide +kernel
  have hcast : (2 : ℚ) ^ 1074 ≤ 10 ^ 324 := by exact_mod_cast hle
  rw [zpow_neg, zpow_neg, zpow_ofNat, zpow_ofNat]
  exact inv_anti₀ (by positivity) hcast

/-- And all are below `10 ^ 309`. -/
theorem largest_lt_zpow : ((2 ^ 53 : ℕ) : ℚ) * 2 ^ (971 : ℤ) ≤ 10 ^ (309 : ℤ) := by
  have hle : 2 ^ 53 * 2 ^ 971 ≤ 10 ^ 309 := by decide +kernel
  rw [zpow_ofNat, zpow_ofNat]
  exact_mod_cast hle

section Search

variable (hmantissa : 0 < mantissa)
include hmantissa

theorem pointPosition_magnitude_spec (exponent : Int) :
    (10 : ℚ) ^ (pointPosition (magnitude mantissa exponent) - 1) ≤ mantissa * (2 : ℚ) ^ exponent ∧
      mantissa * (2 : ℚ) ^ exponent < (10 : ℚ) ^ pointPosition (magnitude mantissa exponent) := by
  have hden : 0 < (magnitude mantissa exponent).den := den_scale_pos Nat.one_pos two_pos _
  have hnum : 0 < (magnitude mantissa exponent).num := by
    rw [Nat.pos_iff_ne_zero, Ne, ← toRat_eq_zero_iff hden, toRat_magnitude]
    positivity
  rw [← toRat_magnitude]
  exact pointPosition_spec hnum hden

variable (hcanonical : (finite false mantissa exponent).IsCanonical)
include hcanonical

theorem pointPosition_magnitude_mem :
    -324 < pointPosition (magnitude mantissa exponent) ∧
      pointPosition (magnitude mantissa exponent) ≤ 309 := by
  obtain ⟨hlow, hhigh⟩ := pointPosition_magnitude_spec hmantissa exponent
  obtain ⟨hbits, hleast, hlargest, -⟩ := hcanonical
  have ten : (1 : ℚ) < 10 := by norm_num
  constructor
  · refine (zpow_lt_zpow_iff_right₀ ten).mp (lt_of_le_of_lt ?_ hhigh)
    calc (10 : ℚ) ^ (-324 : ℤ) ≤ 2 ^ (-1074 : ℤ) := zpow_lt_of_least
      _ ≤ (2 : ℚ) ^ exponent := zpow_le_zpow_right₀ one_le_two hleast
      _ ≤ mantissa * (2 : ℚ) ^ exponent := le_mul_of_one_le_left (by positivity)
          (by exact_mod_cast hmantissa)
  · refine Int.sub_one_lt_iff.mp ((zpow_lt_zpow_iff_right₀ ten).mp (lt_of_le_of_lt hlow ?_))
    calc (mantissa : ℚ) * 2 ^ exponent < (2 ^ 53 : ℕ) * 2 ^ (971 : ℤ) :=
          mul_lt_mul (by exact_mod_cast hbits) (zpow_le_zpow_right₀ one_le_two hlargest)
            (by positivity) (by positivity)
      _ ≤ (10 : ℚ) ^ (309 : ℤ) := largest_lt_zpow

/-- The integer nearest to a fraction of at least `10 ^ 16` is near, when the scale is undone. -/
theorem isNear_scale {digits : Nat} {power : Int}
    (hround : |(digits : ℚ) - mantissa * 2 ^ exponent * 10 ^ (-power)| ≤ 1 / 2)
    (hsize : (10 : ℚ) ^ 16 ≤ mantissa * 2 ^ exponent * 10 ^ (-power)) :
    IsNear (Ratio.scale ⟨digits, 1⟩ 10 power) mantissa exponent := by
  refine ⟨hcanonical, hmantissa, den_scale_pos Nat.one_pos (by decide) _, ?_⟩
  set scaled : ℚ := mantissa * 2 ^ exponent * 10 ^ (-power) with hscaled
  have hunit : (0 : ℚ) < 10 ^ power * 2 ^ (-exponent) := by positivity
  have hback : (mantissa : ℚ) = scaled * (10 ^ power * 2 ^ (-exponent)) := by
    rw [hscaled, zpow_neg, zpow_neg]
    field_simp
  have hdifference : (digits : ℚ) * 10 ^ power * 2 ^ (-exponent) - mantissa =
      (digits - scaled) * (10 ^ power * 2 ^ (-exponent)) := by
    rw [sub_mul, ← hback, mul_assoc]
  rw [toRat_scale, toRat, Nat.cast_one, div_one, Nat.cast_ofNat, hdifference, abs_mul,
    abs_of_pos hunit, le_div_iff₀ (by norm_num)]
  calc |(digits : ℚ) - scaled| * (10 ^ power * 2 ^ (-exponent)) * (2 * 10 ^ 16)
      ≤ 1 / 2 * (10 ^ power * 2 ^ (-exponent)) * (2 * 10 ^ 16) := by gcongr
    _ = 10 ^ 16 * (10 ^ power * 2 ^ (-exponent)) := by ring
    _ ≤ scaled * (10 ^ power * 2 ^ (-exponent)) := by gcongr
    _ = mantissa := hback.symm

omit hmantissa hcanonical in
/-- Few digits and a power that is not extreme are rounded for what they are. -/
theorem ofDecimal_of_near {digits : Nat} {power : Int}
    (hnear : IsNear (Ratio.scale ⟨digits, 1⟩ 10 power) mantissa exponent)
    (hdigits : digits < 10 ^ 18) (hleast : -400 ≤ power) (hmost : power ≤ 382) :
    ofDecimal false digits power = .finite false mantissa exponent := by
  have hlength : (Nat.toDigits 10 digits).length ≤ 18 :=
    (List.length_map _).symm.trans_le (Text.length_ofNat_le (by decide) hdigits)
  have hpos : digits ≠ 0 := by
    rintro rfl
    refine hnear.num_pos.ne' ((toRat_eq_zero_iff hnear.den_pos).mp ?_)
    rw [toRat_scale, toRat, Nat.cast_zero, zero_div, zero_mul]
  simp only [ofDecimal, beq_iff_eq, Bool.or_eq_true, decide_eq_true_eq]
  rw [if_neg (by omega), if_neg (by omega)]
  exact hnear.ofRatio_eq

/-- **The seventeen digits nearest to a number read back as it.** -/
theorem exists_decimalOf?_eq_some : ∃ found, decimalOf? mantissa exponent 17 = some found := by
  obtain ⟨hlow, hhigh⟩ := pointPosition_magnitude_spec hmantissa exponent
  obtain ⟨hleast, hmost⟩ := pointPosition_magnitude_mem hmantissa hcanonical
  set power : Int := pointPosition (magnitude mantissa exponent) - 17 with hpower
  set scaled : Ratio := (magnitude mantissa exponent).scale 10 (-power) with hscaled
  have ten : (10 : ℚ) ≠ 0 := by norm_num
  have hden : 0 < scaled.den :=
    den_scale_pos (den_scale_pos Nat.one_pos two_pos _) (by decide) _
  have hvalue : scaled.toRat = mantissa * 2 ^ exponent * 10 ^ (-power) := by
    rw [hscaled, toRat_scale, toRat_magnitude, Nat.cast_ofNat]
  have hsize : (10 : ℚ) ^ 16 ≤ scaled.toRat := by
    rw [hvalue]
    calc (10 : ℚ) ^ 16 = 10 ^ (pointPosition (magnitude mantissa exponent) - 1) *
            10 ^ (-power) := by
          rw [← zpow_add₀ ten, ← zpow_natCast]
          congr 1
          omega
      _ ≤ mantissa * 2 ^ exponent * 10 ^ (-power) := by gcongr
  have hbound : scaled.toRat ≤ (10 ^ 17 : ℕ) := by
    rw [hvalue]
    calc (mantissa : ℚ) * 2 ^ exponent * 10 ^ (-power)
        ≤ 10 ^ pointPosition (magnitude mantissa exponent) * 10 ^ (-power) := by gcongr
      _ = (10 ^ 17 : ℕ) := by
          rw [← zpow_add₀ ten, Nat.cast_pow, Nat.cast_ofNat, ← zpow_natCast]
          congr 1
          omega
  have hdigits : scaled.roundHalfEven < 10 ^ 18 :=
    lt_of_le_of_lt (roundHalfEven_le hden hbound) (by norm_num)
  have hnear := isNear_scale hmantissa hcanonical
    (hvalue ▸ abs_roundHalfEven_sub_le hden) (hvalue ▸ hsize)
  have hback := ofDecimal_of_near hnear hdigits (by omega) (by omega)
  exact ⟨(scaled.roundHalfEven, power), if_pos (beq_iff_eq.mpr hback)⟩

end Search

end Binary64

end ProfileFilter
