import ProfileFilter.Proofs.Text.Digits
import Mathlib.Algebra.Order.Floor.Semifield
import Mathlib.Algebra.Order.Field.Power
import Mathlib.Data.Rat.Cast.Order
import Mathlib.Tactic.FieldSimp
import Mathlib.Tactic.Linarith
import Mathlib.Tactic.Positivity
import Mathlib.Tactic.Ring

/-!
# Rounding depends on the value alone

A fraction has many forms, and rounding works on the form it is given: it estimates the
exponent from the sizes of numerator and denominator. Here the estimate is shown to be
corrected to the one right exponent, so that rounding depends on the value of the
fraction only (`ofRatio_congr`).

What follows for decimals is all that reading them back needs: trailing zeros of the
digits can be moved into the power (`ofDecimal_mul_pow`). The integers that products are rounded
to have at most 1024 bits (`natAbs_le_of_round?_mul`).
-/

namespace ProfileFilter

namespace Ratio

/-- The value of a fraction. -/
def toRat (r : Ratio) : ℚ := (r.num : ℚ) / r.den

variable {r s : Ratio}

theorem den_scale_pos (h : 0 < r.den) {base : Nat} (hbase : 0 < base) (power : Int) :
    0 < (r.scale base power).den := by
  cases power with
  | ofNat p => exact h
  | negSucc p => exact Nat.mul_pos h (Nat.pow_pos hbase)

/-- Scaling multiplies the value. -/
theorem toRat_scale (r : Ratio) {base : Nat} (power : Int) :
    (r.scale base power).toRat = r.toRat * (base : ℚ) ^ power := by
  cases power with
  | ofNat p =>
    simp only [scale, toRat, Int.ofNat_eq_natCast, zpow_natCast, Nat.pow_eq, Nat.cast_mul,
      Nat.cast_pow]
    ring
  | negSucc p =>
    simp only [scale, toRat, zpow_negSucc, Nat.pow_eq, Nat.cast_mul, Nat.cast_pow]
    rw [div_mul_eq_div_div, div_eq_mul_inv _ ((base : ℚ) ^ (p + 1))]

/-- Equal values, by cross multiplication. -/
theorem toRat_eq_iff (hr : 0 < r.den) (hs : 0 < s.den) :
    r.toRat = s.toRat ↔ r.num * s.den = s.num * r.den := by
  have hr' : (r.den : ℚ) ≠ 0 := by positivity
  have hs' : (s.den : ℚ) ≠ 0 := by positivity
  rw [toRat, toRat, div_eq_div_iff hr' hs']
  exact_mod_cast Iff.rfl

theorem toRat_eq_zero_iff (h : 0 < r.den) : r.toRat = 0 ↔ r.num = 0 := by
  have h' : (r.den : ℚ) ≠ 0 := by positivity
  rw [toRat, div_eq_zero_iff, Nat.cast_eq_zero]
  exact or_iff_left h'

/-- The integer part is below a bound exactly if the value is. -/
theorem div_lt_iff (h : 0 < r.den) (n : Nat) : r.num / r.den < n ↔ r.toRat < n := by
  rw [Nat.div_lt_iff_lt_mul h, toRat, div_lt_iff₀ (by exact_mod_cast h)]
  exact_mod_cast Iff.rfl

/-- Expanding a fraction does not change what it rounds to. -/
theorem roundHalfEven_expand {c : Nat} (hc : 0 < c) (n d : Nat) :
    roundHalfEven ⟨c * n, c * d⟩ = roundHalfEven ⟨n, d⟩ := by
  have htwice : 2 * (c * n % (c * d)) = c * (2 * (n % d)) := by
    rw [Nat.mul_mod_mul_left]
    ring
  simp only [roundHalfEven, Nat.mul_div_mul_left _ _ hc, htwice, gt_iff_lt,
    Nat.mul_lt_mul_left hc, beq_iff_eq, decide_eq_true_eq, Bool.or_eq_true, Bool.and_eq_true,
    Nat.mul_right_inj hc.ne']

/-- Equal fractions round to the same number. -/
theorem roundHalfEven_congr (hr : 0 < r.den) (hs : 0 < s.den) (h : r.toRat = s.toRat) :
    r.roundHalfEven = s.roundHalfEven := by
  rw [toRat_eq_iff hr hs] at h
  calc r.roundHalfEven = roundHalfEven ⟨s.den * r.num, s.den * r.den⟩ :=
        (roundHalfEven_expand hs r.num r.den).symm
    _ = roundHalfEven ⟨r.den * s.num, r.den * s.den⟩ := by
        rw [Nat.mul_comm s.den r.num, h, Nat.mul_comm s.num, Nat.mul_comm s.den r.den]
    _ = s.roundHalfEven := roundHalfEven_expand hr s.num s.den

theorem le_roundHalfEven (r : Ratio) : r.roundHalfEven ≤ r.num / r.den + 1 := by
  simp only [roundHalfEven]
  split_ifs <;> omega

theorem roundHalfEven_le_num (h : 0 < r.den) : r.roundHalfEven ≤ r.num := by
  have hdiv := Nat.div_add_mod r.num r.den
  have hle : r.num / r.den ≤ r.den * (r.num / r.den) := Nat.le_mul_of_pos_left _ h
  simp only [roundHalfEven, Bool.or_eq_true, Bool.and_eq_true, decide_eq_true_eq, beq_iff_eq]
  split_ifs <;> omega

end Ratio

namespace Binary64

open Ratio

variable {r s : Ratio}

/-- The sizes of numerator and denominator enclose the value. -/
theorem toRat_between (hnum : 0 < r.num) (hden : 0 < r.den) :
    (2 : ℚ) ^ ((Nat.log2 r.num : ℤ) - Nat.log2 r.den - 1) < r.toRat ∧
      r.toRat < (2 : ℚ) ^ ((Nat.log2 r.num : ℤ) - Nat.log2 r.den + 1) := by
  have hn₁ : (2 : ℚ) ^ Nat.log2 r.num ≤ r.num := by exact_mod_cast Nat.log2_self_le hnum.ne'
  have hn₂ : (r.num : ℚ) < 2 ^ (Nat.log2 r.num + 1) := by exact_mod_cast Nat.lt_log2_self
  have hd₁ : (2 : ℚ) ^ Nat.log2 r.den ≤ r.den := by exact_mod_cast Nat.log2_self_le hden.ne'
  have hd₂ : (r.den : ℚ) < 2 ^ (Nat.log2 r.den + 1) := by exact_mod_cast Nat.lt_log2_self
  have hden' : (0 : ℚ) < r.den := by exact_mod_cast hden
  have two : (2 : ℚ) ≠ 0 := two_ne_zero
  rw [toRat, lt_div_iff₀ hden', div_lt_iff₀ hden']
  constructor
  · calc (2 : ℚ) ^ ((Nat.log2 r.num : ℤ) - Nat.log2 r.den - 1) * r.den
        < (2 : ℚ) ^ ((Nat.log2 r.num : ℤ) - Nat.log2 r.den - 1) * 2 ^ (Nat.log2 r.den + 1) := by
          gcongr
      _ = 2 ^ Nat.log2 r.num := by
          rw [← zpow_natCast, ← zpow_natCast, ← zpow_add₀ two]
          congr 1
          push_cast
          ring
      _ ≤ r.num := hn₁
  · calc (r.num : ℚ) < 2 ^ (Nat.log2 r.num + 1) := hn₂
      _ = (2 : ℚ) ^ ((Nat.log2 r.num : ℤ) - Nat.log2 r.den + 1) * 2 ^ Nat.log2 r.den := by
          rw [← zpow_natCast, ← zpow_natCast, ← zpow_add₀ two]
          congr 1
          push_cast
          ring
      _ ≤ (2 : ℚ) ^ ((Nat.log2 r.num : ℤ) - Nat.log2 r.den + 1) * r.den := by
          gcongr

/-- **The estimate is corrected**: up to the least exponent of the format, the exponent is
the one that puts the mantissa between `2 ^ 52` and `2 ^ 53`. -/
theorem exists_ulpExponent_eq (hnum : 0 < r.num) (hden : 0 < r.den) :
    ∃ e : Int, ulpExponent r = max e (-1074) ∧
      (2 : ℚ) ^ (e + 52) ≤ r.toRat ∧ r.toRat < (2 : ℚ) ^ (e + 53) := by
  obtain ⟨hlow, hhigh⟩ := toRat_between hnum hden
  set guess : Int := (Nat.log2 r.num : Int) - Nat.log2 r.den - 52 with hguess
  have htest : (r.scale 2 (52 - (guess + 52))).num / (r.scale 2 (52 - (guess + 52))).den
      < leastNormal ↔ r.toRat < (2 : ℚ) ^ (guess + 52) := by
    rw [div_lt_iff (den_scale_pos hden two_pos _), toRat_scale,
      show (52 : Int) - (guess + 52) = -guess by ring, Nat.cast_ofNat, zpow_neg,
      mul_inv_lt_iff₀ (by positivity), zpow_add₀ two_ne_zero, mul_comm]
    norm_num [leastNormal]
  have hunfold : ulpExponent r = max (if (r.scale 2 (52 - (guess + 52))).num /
      (r.scale 2 (52 - (guess + 52))).den < leastNormal then guess - 1 else guess) (-1074) := rfl
  rw [hunfold]
  -- the guess is right or one too high, and the test says which
  split_ifs with h
  · refine ⟨guess - 1, rfl, ?_, ?_⟩
    · refine le_of_lt (lt_of_eq_of_lt ?_ hlow)
      congr 1
      omega
    · rw [show guess - 1 + 53 = guess + 52 by ring]
      exact htest.mp h
  · refine ⟨guess, rfl, not_lt.mp fun hlt => h (htest.mpr hlt), lt_of_lt_of_eq hhigh ?_⟩
    congr 1
    omega

theorem ulpExponent_congr (hnum : 0 < r.num) (hr : 0 < r.den) (hnum' : 0 < s.num)
    (hs : 0 < s.den) (h : r.toRat = s.toRat) : ulpExponent r = ulpExponent s := by
  obtain ⟨e, he, hlow, hhigh⟩ := exists_ulpExponent_eq hnum hr
  obtain ⟨f, hf, hlow', hhigh'⟩ := exists_ulpExponent_eq hnum' hs
  rw [h] at hlow hhigh
  have h₁ := (zpow_lt_zpow_iff_right₀ (one_lt_two : (1 : ℚ) < 2)).mp (lt_of_le_of_lt hlow hhigh')
  have h₂ := (zpow_lt_zpow_iff_right₀ (one_lt_two : (1 : ℚ) < 2)).mp (lt_of_le_of_lt hlow' hhigh)
  rw [he, hf, show e = f by omega]

/-- **Rounding depends on the value alone.** -/
theorem ofRatio_congr (negative : Bool) (hr : 0 < r.den) (hs : 0 < s.den)
    (h : r.toRat = s.toRat) : ofRatio negative r = ofRatio negative s := by
  rcases Nat.eq_zero_or_pos r.num with hzero | hnum
  · have hzero' : s.num = 0 := by
      rw [← toRat_eq_zero_iff hs, ← h, toRat_eq_zero_iff hr, hzero]
    rw [ofRatio, ofRatio, hzero, hzero']
    rfl
  · have hnum' : 0 < s.num := by
      rw [Nat.pos_iff_ne_zero, Ne, ← toRat_eq_zero_iff hs, ← h, toRat_eq_zero_iff hr]
      exact hnum.ne'
    have hexp := ulpExponent_congr hnum hr hnum' hs h
    have hround : (r.scale 2 (-ulpExponent s)).roundHalfEven =
        (s.scale 2 (-ulpExponent s)).roundHalfEven := by
      refine roundHalfEven_congr (den_scale_pos hr two_pos _) (den_scale_pos hs two_pos _) ?_
      rw [toRat_scale, toRat_scale, h]
    simp only [ofRatio, beq_iff_eq, hnum.ne', hnum'.ne', if_false, hexp, hround]

/-! ## The sign -/

/-- A number of the same magnitude with the given sign. -/
def withSign (negative : Bool) : Binary64 → Binary64
  | .nan => .nan
  | .infinite _ => .infinite negative
  | .finite _ mantissa exponent => .finite negative mantissa exponent

/-- The sign takes no part in rounding. -/
theorem ofRatio_eq_withSign (negative : Bool) (r : Ratio) :
    ofRatio negative r = (ofRatio false r).withSign negative := by
  simp only [ofRatio]
  split_ifs <;> rfl

/-! ## Decimals -/

@[simp] theorem ofDecimal_zero (negative : Bool) (power : Int) :
    ofDecimal negative 0 power = .finite negative 0 (-1074) := rfl

theorem ofDecimal_eq_withSign (negative : Bool) (digits : Nat) (power : Int) :
    ofDecimal negative digits power = (ofDecimal false digits power).withSign negative := by
  simp only [ofDecimal]
  split_ifs
  · rfl
  · rfl
  · exact ofRatio_eq_withSign negative _

/-- **Zeros at the end of the digits belong to the power.** -/
theorem ofDecimal_mul_pow (negative : Bool) (digits j : Nat) (power : Int) :
    ofDecimal negative (digits * 10 ^ j) power = ofDecimal negative digits (power + j) := by
  rcases Nat.eq_zero_or_pos digits with rfl | hdigits
  · rw [Nat.zero_mul, ofDecimal_zero, ofDecimal_zero]
  have hpos : 0 < digits * 10 ^ j := Nat.mul_pos hdigits (Nat.pow_pos (by decide))
  have hsize : ((Nat.toDigits 10 (digits * 10 ^ j)).length : Int) + power =
      (Nat.toDigits 10 digits).length + (power + j) := by
    rw [Text.length_toDigits_mul_pow hdigits]
    push_cast
    ring
  have hratio : ofRatio negative (Ratio.scale ⟨digits * 10 ^ j, 1⟩ 10 power) =
      ofRatio negative (Ratio.scale ⟨digits, 1⟩ 10 (power + j)) := by
    refine ofRatio_congr negative (den_scale_pos Nat.one_pos (by decide) _)
      (den_scale_pos Nat.one_pos (by decide) _) ?_
    rw [toRat_scale, toRat_scale, zpow_add₀ (by norm_num), zpow_natCast]
    simp only [toRat, Nat.cast_mul, Nat.cast_pow, Nat.cast_ofNat, Nat.cast_one, div_one]
    ring
  simp only [ofDecimal, hsize, hratio, beq_iff_eq, hpos.ne', hdigits.ne', Bool.or_eq_true,
    decide_eq_true_eq, false_or]

/-! ## Size -/

/-- Rounding yields a mantissa of 53 bits and an exponent of the format. -/
theorem le_of_ofRatio_eq {negative sign : Bool} {mantissa : Nat} {exponent : Int}
    (hden : 0 < r.den) (h : ofRatio negative r = .finite sign mantissa exponent) :
    mantissa ≤ 2 ^ 53 ∧ exponent ≤ 971 := by
  simp only [ofRatio, beq_iff_eq] at h
  split_ifs at h with hzero
  · cases h
    exact ⟨Nat.zero_le _, by decide⟩
  · cases h
    exact ⟨by norm_num [leastNormal], by omega⟩
  · cases h
    obtain ⟨e, he, -, hhigh⟩ := exists_ulpExponent_eq (Nat.pos_of_ne_zero hzero) hden
    have hscaled : (r.scale 2 (-ulpExponent r)).toRat < (2 ^ 53 : Nat) := by
      rw [toRat_scale, Nat.cast_ofNat]
      calc r.toRat * (2 : ℚ) ^ (-ulpExponent r)
          < (2 : ℚ) ^ (e + 53) * 2 ^ (-ulpExponent r) := by gcongr
        _ = (2 : ℚ) ^ (e + 53 - ulpExponent r) := by rw [← zpow_add₀ two_ne_zero]; rfl
        _ ≤ (2 : ℚ) ^ (53 : Int) := zpow_le_zpow_right₀ one_le_two (by omega)
        _ = (2 ^ 53 : Nat) := by norm_num
    have hdiv := (div_lt_iff (den_scale_pos hden two_pos _) _).mpr hscaled
    exact ⟨(le_roundHalfEven _).trans hdiv, by omega⟩

/-- A number with 53 bits and an exponent is rounded to an integer with as many bits as both say. -/
theorem natAbs_le_of_round? {sign : Bool} {mantissa k : Nat} {exponent n : Int}
    (hmantissa : mantissa ≤ 2 ^ 53) (hexponent : exponent ≤ k)
    (h : (Binary64.finite sign mantissa exponent).round? = some n) :
    n.natAbs ≤ 2 ^ (53 + k) := by
  have hround : (magnitude mantissa exponent).roundHalfEven ≤ 2 ^ (53 + k) := by
    refine (roundHalfEven_le_num (den_scale_pos Nat.one_pos two_pos _)).trans ?_
    cases exponent with
    | ofNat p =>
      rw [pow_add]
      exact Nat.mul_le_mul hmantissa (Nat.pow_le_pow_right two_pos (Int.ofNat_le.mp hexponent))
    | negSucc p => exact hmantissa.trans (Nat.pow_le_pow_right two_pos (Nat.le_add_right _ _))
  obtain rfl := Option.some.inj h
  split_ifs
  · rwa [Int.natAbs_neg, Int.natAbs_natCast]
  · rwa [Int.natAbs_natCast]

/-- A product that is finite was rounded. -/
theorem exists_of_mul_eq_finite {x y : Binary64} {sign : Bool} {mantissa : Nat} {exponent : Int}
    (h : x.mul y = .finite sign mantissa exponent) :
    ∃ negative m e, ofRatio negative (magnitude m e) = .finite sign mantissa exponent := by
  cases x with
  | nan => cases h
  | infinite a =>
    cases y with
    | finite =>
      simp only [mul] at h
      split_ifs at h
    | _ => cases h
  | finite s m e =>
    cases y with
    | nan => cases h
    | infinite b =>
      simp only [mul] at h
      split_ifs at h
    | finite s' m' e' => exact ⟨_, _, _, h⟩

/-- **The integer that a product is rounded to has at most 1024 bits.** -/
theorem natAbs_le_of_round?_mul {x y : Binary64} {n : Int} (h : (x.mul y).round? = some n) :
    n.natAbs ≤ 2 ^ (53 + 971) := by
  cases hproduct : x.mul y with
  | finite sign mantissa exponent =>
    rw [hproduct] at h
    obtain ⟨negative, m, e, hrounded⟩ := exists_of_mul_eq_finite hproduct
    obtain ⟨hmantissa, hexponent⟩ :=
      le_of_ofRatio_eq (den_scale_pos Nat.one_pos two_pos _) hrounded
    exact natAbs_le_of_round? hmantissa hexponent h
  | _ =>
    rw [hproduct] at h
    cases h

end Binary64

end ProfileFilter
