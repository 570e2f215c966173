/-
# How far rounding goes

The magnitude of a floating-point number is a rational number, and rounding a positive
quotient moves it by at most one part in `2 ^ 53` as long as the quotient is neither so small
that bits are lost nor so large that no finite number is left. The greatest finite number is
one part in `2 ^ 53` below `2 ^ 1024`: a quotient up to it stays finite, and one of `2 ^ 1024`
or more does not.
-/

import Mathlib.Algebra.Order.Field.Power
import Mathlib.Algebra.Order.Field.Rat
import Mathlib.Data.Nat.Log
import Mathlib.Tactic.FieldSimp
import Mathlib.Tactic.IntervalCases
import Mathlib.Tactic.Linarith
import Mathlib.Tactic.NormNum
import Mathlib.Tactic.Positivity
import Mathlib.Tactic.Ring
import UtilityBilling.Number.Binary64

namespace UtilityBilling.Number.Binary64

variable (negative : Bool) {exponentBits fractionBits num den : Nat}

/-- The magnitude of a finite number. -/
def magnitude (x : Binary64) : ℚ :=
  x.significand * 2 ^ x.exponent

/-- The least power of two that is above every finite number. -/
def top : ℚ :=
  2 ^ (1024 : Int)

theorem top_pos : 0 < top :=
  zpow_pos two_pos _

/-- The bits of a number are its sign, its exponent and its fraction side by side. -/
theorem toNat_bits_assemble (small : exponentBits < 2 ^ 11) (short : fractionBits < 2 ^ 52) :
    (assemble negative exponentBits fractionBits).bits.toNat =
      (if negative then 2 ^ 63 else 0) + exponentBits * 2 ^ 52 + fractionBits := by
  have fits : (if negative then Nat.pow 2 63 else 0) + exponentBits * Nat.pow 2 52 +
      fractionBits < 2 ^ 64 := by
    cases negative <;> simp only [Nat.pow_eq, if_true, if_false, Bool.false_eq_true] <;> omega
  rw [assemble, UInt64.toNat_ofNat_of_lt' fits]
  rfl

theorem biased_assemble (small : exponentBits < 2 ^ 11) (short : fractionBits < 2 ^ 52) :
    (assemble negative exponentBits fractionBits).biased = exponentBits := by
  rw [biased, toNat_bits_assemble negative small short]
  cases negative <;> simp only [Nat.pow_eq, if_true, if_false, Bool.false_eq_true] <;> omega

theorem fraction_assemble (small : exponentBits < 2 ^ 11) (short : fractionBits < 2 ^ 52) :
    (assemble negative exponentBits fractionBits).fraction = fractionBits := by
  rw [fraction, toNat_bits_assemble negative small short]
  cases negative <;> simp only [Nat.pow_eq, if_true, if_false, Bool.false_eq_true] <;> omega

theorem isNegative_assemble (small : exponentBits < 2 ^ 11) (short : fractionBits < 2 ^ 52) :
    (assemble negative exponentBits fractionBits).isNegative = negative := by
  rw [isNegative, toNat_bits_assemble negative small short]
  cases negative <;>
    simp only [Nat.pow_eq, if_true, if_false, Bool.false_eq_true, decide_eq_true_eq,
      decide_eq_false_iff_not] <;> omega

/-- A number whose exponent is neither all zeros nor all ones is finite, and its significand
has a leading one before its fraction. -/
theorem magnitude_assemble (least : 1 ≤ exponentBits) (most : exponentBits < 2047)
    (short : fractionBits < 2 ^ 52) :
    (assemble negative exponentBits fractionBits).isFinite = true ∧
      (assemble negative exponentBits fractionBits).magnitude =
        ((2 ^ 52 + fractionBits : Nat) : ℚ) * 2 ^ ((exponentBits : Int) - 1075) := by
  have small : exponentBits < 2 ^ 11 := by omega
  have biased := biased_assemble negative small short
  have fraction := fraction_assemble negative small short
  refine ⟨?_, ?_⟩
  · rw [isFinite, biased]
    exact bne_iff_ne.mpr (by omega)
  · rw [magnitude, significand, exponent, biased, fraction, if_neg (by omega),
      show exponentBits.max 1 = exponentBits from Nat.max_eq_left least, Nat.add_comm]
    rfl

theorem isFinite_infinity : (infinity negative).isFinite = false := by
  cases negative <;> rfl

theorem isNegative_infinity : (infinity negative).isNegative = negative := by
  cases negative <;> rfl

/-- A magnitude is the quotient of the two whole numbers that stand for it. -/
theorem ratio_spec (x : Binary64) :
    0 < x.ratio.2 ∧ (x.ratio.1 : ℚ) / x.ratio.2 = x.magnitude := by
  rw [ratio, magnitude]
  split
  case isTrue whole =>
    refine ⟨Nat.one_pos, ?_⟩
    obtain ⟨e, same⟩ := Int.eq_ofNat_of_zero_le whole
    simp [same]
  case isFalse part =>
    refine ⟨Nat.pow_pos (by decide), ?_⟩
    obtain ⟨e, same⟩ := Int.eq_ofNat_of_zero_le (show 0 ≤ -x.exponent by omega)
    have opposite : x.exponent = -(e : Int) := by omega
    simp [opposite, div_eq_mul_inv]

/-- A rounded quotient is at most a half away. -/
theorem abs_roundedQuotient_sub_le (num : Nat) (positive : 0 < den) :
    |(roundedQuotient num den : ℚ) - num / den| ≤ 1 / 2 := by
  have exact_ : (num : ℚ) / den = (num / den : Nat) + (num % den : Nat) / (den : ℚ) := by
    have := Nat.div_add_mod num den
    field_simp
    exact_mod_cast this.symm
  have short : (num % den : Nat) < (den : ℚ) := by exact_mod_cast Nat.mod_lt num positive
  have denPositive : (0 : ℚ) < den := by exact_mod_cast positive
  rw [exact_, roundedQuotient]
  split
  case isTrue up =>
    have half : (den : ℚ) ≤ 2 * (num % den : Nat) := by
      exact_mod_cast (show den ≤ 2 * (num % den) by omega)
    have least : 1 / 2 ≤ ((num % den : Nat) : ℚ) / den := by
      rw [div_le_div_iff₀ (by norm_num) denPositive]; linarith
    have most : ((num % den : Nat) : ℚ) / den ≤ 1 := by
      rw [div_le_one denPositive]; linarith
    rw [abs_le]
    push_cast
    constructor <;> linarith
  case isFalse down =>
    have half : 2 * (num % den : Nat) ≤ (den : ℚ) := by
      exact_mod_cast (show 2 * (num % den) ≤ den by omega)
    have most : ((num % den : Nat) : ℚ) / den ≤ 1 / 2 := by
      rw [div_le_div_iff₀ denPositive (by norm_num)]; linarith
    have least : 0 ≤ ((num % den : Nat) : ℚ) / den := by positivity
    rw [abs_le]
    constructor <;> linarith

/-- A magnitude counted in units of a power of two is at most half a unit away. -/
theorem abs_scaled_sub_le (num : Nat) (positive : 0 < den) (q : Int) :
    |(scaled num den q : ℚ) - num / den / 2 ^ q| ≤ 1 / 2 := by
  rw [scaled]
  split
  case isTrue whole =>
    obtain ⟨e, rfl⟩ := Int.eq_ofNat_of_zero_le whole
    have bound := abs_roundedQuotient_sub_le num
      (show 0 < den * Nat.pow 2 (e : Int).toNat from
        Nat.mul_pos positive (Nat.pow_pos (by decide)))
    simpa [div_div] using bound
  case isFalse part =>
    obtain ⟨e, same⟩ := Int.eq_ofNat_of_zero_le (show 0 ≤ -q by omega)
    have opposite : q = -(e : Int) := by omega
    have bound := abs_roundedQuotient_sub_le (num * Nat.pow 2 (-q).toNat) positive
    subst opposite
    simpa [div_mul_eq_mul_div] using bound

/-- The binary logarithms of two numbers bound their quotient to a factor of four. -/
theorem quotient_bounds (numPositive : 0 < num) (denPositive : 0 < den) :
    (2 : ℚ) ^ ((Nat.log2 num : Int) - Nat.log2 den - 1) < num / den ∧
      (num : ℚ) / den < 2 ^ ((Nat.log2 num : Int) - Nat.log2 den + 1) := by
  have numLow : (2 : ℚ) ^ (Nat.log2 num : Int) ≤ num := by
    exact_mod_cast Nat.log2_self_le numPositive.ne'
  have numHigh : (num : ℚ) < 2 ^ ((Nat.log2 num : Int) + 1) := by
    exact_mod_cast Nat.lt_log2_self (n := num)
  have denLow : (2 : ℚ) ^ (Nat.log2 den : Int) ≤ den := by
    exact_mod_cast Nat.log2_self_le denPositive.ne'
  have denHigh : (den : ℚ) < 2 ^ ((Nat.log2 den : Int) + 1) := by
    exact_mod_cast Nat.lt_log2_self (n := den)
  have denPositive : (0 : ℚ) < den := by exact_mod_cast denPositive
  constructor
  · rw [lt_div_iff₀ denPositive]
    calc (2 : ℚ) ^ ((Nat.log2 num : Int) - Nat.log2 den - 1) * den
        < 2 ^ ((Nat.log2 num : Int) - Nat.log2 den - 1) * 2 ^ ((Nat.log2 den : Int) + 1) := by
          gcongr
      _ = 2 ^ (Nat.log2 num : Int) := by
          rw [← zpow_add₀ two_ne_zero]; congr 1; omega
      _ ≤ num := numLow
  · rw [div_lt_iff₀ denPositive]
    calc (num : ℚ) < 2 ^ ((Nat.log2 num : Int) + 1) := numHigh
      _ = 2 ^ ((Nat.log2 num : Int) - Nat.log2 den + 1) * 2 ^ (Nat.log2 den : Int) := by
          rw [← zpow_add₀ two_ne_zero]; congr 1; omega
      _ ≤ 2 ^ ((Nat.log2 num : Int) - Nat.log2 den + 1) * den := by gcongr

/-- A quotient of whole numbers is compared with a power of two by whole numbers. -/
theorem lt_power_iff (num : Nat) (denPositive : 0 < den) (guess : Int) :
    (if 0 ≤ guess then decide (num < den * Nat.pow 2 guess.toNat * Nat.pow 2 52)
      else decide (num * Nat.pow 2 (-guess).toNat < den * Nat.pow 2 52)) = true ↔
      (num : ℚ) / den < 2 ^ (guess + 52) := by
  have denPositive : (0 : ℚ) < den := by exact_mod_cast denPositive
  rw [div_lt_iff₀ denPositive, zpow_add₀ two_ne_zero]
  split
  case isTrue whole =>
    obtain ⟨e, rfl⟩ := Int.eq_ofNat_of_zero_le whole
    rw [decide_eq_true_eq, ← Nat.cast_lt (α := ℚ)]
    push_cast [Nat.pow_eq, Int.toNat_natCast, zpow_natCast]
    rw [mul_assoc, mul_comm (den : ℚ)]
  case isFalse part =>
    obtain ⟨e, same⟩ := Int.eq_ofNat_of_zero_le (show 0 ≤ -guess by omega)
    obtain rfl : guess = -(e : Int) := by omega
    have power : (0 : ℚ) < 2 ^ e := by positivity
    rw [decide_eq_true_eq, ← Nat.cast_lt (α := ℚ), zpow_neg, mul_assoc, inv_mul_eq_div,
      lt_div_iff₀ (by exact_mod_cast power)]
    push_cast [Nat.pow_eq, neg_neg, Int.toNat_natCast, zpow_natCast]
    rw [mul_comm (den : ℚ)]

/-- What a significand of 53 bits over a unit becomes: it may have been rounded up to one bit
more, and the exponent may be too large. -/
def assembled (negative : Bool) (m : Nat) (q : Int) : Binary64 :=
  if 2 ^ 53 ≤ m then
    if 971 ≤ q then infinity negative else assemble negative (q + 1076).toNat 0
  else if 972 ≤ q then infinity negative
  else assemble negative (q + 1075).toNat (m - 2 ^ 52)

/-- The unit that leaves a quotient 53 bits before the point. -/
theorem exists_unit (numPositive : 0 < num) (denPositive : 0 < den) :
    ∃ q : Int, (2 : ℚ) ^ (q + 52) ≤ num / den ∧ (num : ℚ) / den < 2 ^ (q + 53) ∧
      ofRatio negative num den =
        let q := max q (-1074)
        let m := scaled num den q
        let exponentBits : Int := if m < Nat.pow 2 52 then 0 else q + 1075
        if Nat.pow 2 53 ≤ m then
          if q + 1076 ≥ 2047 then infinity negative
          else assemble negative (q + 1076).toNat 0
        else if exponentBits ≥ 2047 then infinity negative
        else assemble negative exponentBits.toNat (m % Nat.pow 2 52) := by
  obtain ⟨low, high⟩ := quotient_bounds numPositive denPositive
  rw [ofRatio, if_neg (by omega)]
  dsimp only
  generalize guessed : (Nat.log2 num : Int) - Nat.log2 den - 52 = guess
  have tooFine := lt_power_iff num denPositive guess
  rw [show (Nat.log2 num : Int) - Nat.log2 den - 1 = guess + 51 by omega] at low
  rw [show (Nat.log2 num : Int) - Nat.log2 den + 1 = guess + 53 by omega] at high
  -- The logarithms leave one bit open, which the comparison decides.
  by_cases fine_ : (num : ℚ) / den < 2 ^ (guess + 52)
  · rw [if_pos (tooFine.mpr fine_)]
    refine ⟨guess - 1, ?_, ?_, rfl⟩
    · rw [show guess - 1 + 52 = guess + 51 by omega]
      exact low.le
    · rwa [show guess - 1 + 53 = guess + 52 by omega]
  · rw [if_neg (mt tooFine.mp fine_)]
    exact ⟨guess, not_lt.mp fine_, high, rfl⟩

/-- A magnitude of 53 bits before the point keeps them when it is rounded, or is rounded up to
the next power of two. -/
theorem scaled_bounds (denPositive : 0 < den) {q : Int} (low : (2 : ℚ) ^ (q + 52) ≤ num / den)
    (high : (num : ℚ) / den < 2 ^ (q + 53)) :
    2 ^ 52 ≤ scaled num den q ∧ scaled num den q ≤ 2 ^ 53 := by
  have near := abs_le.mp (abs_scaled_sub_le num denPositive q)
  have unit : (0 : ℚ) < 2 ^ q := by positivity
  have least : (2 : ℚ) ^ 52 ≤ num / den / 2 ^ q := by
    rw [le_div_iff₀ unit, mul_comm]
    rwa [zpow_add₀ two_ne_zero] at low
  have most : (num : ℚ) / den / 2 ^ q < 2 ^ 53 := by
    rw [div_lt_iff₀ unit, mul_comm]
    rwa [zpow_add₀ two_ne_zero] at high
  constructor
  · have above : (2 ^ 52 : ℚ) - 1 < scaled num den q := by linarith [near.1]
    have : 2 ^ 52 < scaled num den q + 1 := by exact_mod_cast sub_lt_iff_lt_add.mp above
    omega
  · have below : (scaled num den q : ℚ) < 2 ^ 53 + 1 := by linarith [near.2]
    have : scaled num den q < 2 ^ 53 + 1 := by exact_mod_cast below
    omega

/-- The significand of a positive quotient that is not too small has 53 bits. -/
theorem exists_ofRatio_eq (numPositive : 0 < num) (denPositive : 0 < den)
    (large : (2 : ℚ) ^ (-1022 : Int) ≤ num / den) :
    ∃ q : Int, -1074 ≤ q ∧ (2 : ℚ) ^ (q + 52) ≤ num / den ∧ (num : ℚ) / den < 2 ^ (q + 53) ∧
      ofRatio negative num den = assembled negative (scaled num den q) q := by
  obtain ⟨q, low, high, equal⟩ := exists_unit negative numPositive denPositive
  have normal : -1074 ≤ q := by
    have := (zpow_lt_zpow_iff_right₀ (a := (2 : ℚ)) one_lt_two).mp (large.trans_lt high)
    omega
  obtain ⟨least, most⟩ := scaled_bounds denPositive low high
  refine ⟨q, normal, low, high, ?_⟩
  rw [equal, assembled, max_eq_left normal]
  dsimp only [Nat.pow_eq]
  rw [if_neg (Nat.not_lt.mpr least)]
  split
  case isTrue carried => simp only [ge_iff_le, show 2047 ≤ q + 1076 ↔ 971 ≤ q by omega]
  case isFalse kept =>
    rw [show scaled num den q % 2 ^ 52 = scaled num den q - 2 ^ 52 by omega]
    simp only [ge_iff_le, show 2047 ≤ q + 1075 ↔ 972 ≤ q by omega]

theorem pow_mul_unit {k : Nat} {q e : Int} (sum : k + q = e) : (2 : ℚ) ^ k * 2 ^ q = 2 ^ e := by
  rw [← sum, zpow_add₀ two_ne_zero, zpow_natCast]

/-- A number of units is large when the unit is. -/
theorem top_le_mul {m k : Nat} {q : Int} (least : 2 ^ k ≤ m) (large : 1024 ≤ k + q) :
    ¬ (m : ℚ) * 2 ^ q < top := by
  have : (2 : ℚ) ^ k ≤ m := by exact_mod_cast least
  refine not_lt.mpr ?_
  calc top ≤ 2 ^ ((k : Int) + q) := zpow_le_zpow_right₀ one_le_two large
    _ = 2 ^ k * 2 ^ q := (pow_mul_unit rfl).symm
    _ ≤ m * 2 ^ q := by gcongr

/-- A number of units is small when the unit is. -/
theorem mul_lt_top {m k : Nat} {q : Int} (most : m < 2 ^ k) (small : k + q ≤ 1024) :
    (m : ℚ) * 2 ^ q < top := by
  have : (m : ℚ) < 2 ^ k := by exact_mod_cast most
  calc (m : ℚ) * 2 ^ q < 2 ^ k * 2 ^ q := by gcongr
    _ = 2 ^ ((k : Int) + q) := pow_mul_unit rfl
    _ ≤ top := zpow_le_zpow_right₀ one_le_two small

/-- What is assembled from a significand of 53 bits is that many units, unless there is no
finite number so large. -/
theorem assembled_spec {m : Nat} {q : Int} (normal : -1074 ≤ q) (least : 2 ^ 52 ≤ m)
    (most : m ≤ 2 ^ 53) :
    (assembled negative m q).isNegative = negative ∧
      ((assembled negative m q).isFinite = true ↔ (m : ℚ) * 2 ^ q < top) ∧
      ((assembled negative m q).isFinite = true →
        (assembled negative m q).magnitude = m * 2 ^ q) := by
  rw [assembled]
  split
  case isTrue carried =>
    obtain rfl : m = 2 ^ 53 := le_antisymm most carried
    split
    case isTrue large =>
      simp only [isNegative_infinity, isFinite_infinity, Bool.false_eq_true, false_iff,
        false_implies, and_true, true_and]
      exact top_le_mul le_rfl (by omega)
    case isFalse small =>
      obtain ⟨finite_, value⟩ := magnitude_assemble negative
        (show 1 ≤ (q + 1076).toNat by omega) (by omega) (show 0 < 2 ^ 52 by decide)
      refine ⟨isNegative_assemble negative (by omega) (by decide), ?_, fun _ => ?_⟩
      · exact iff_of_true finite_ (mul_lt_top (k := 54) (by decide) (by omega))
      · rw [value, show ((q + 1076).toNat : Int) - 1075 = q + 1 by omega,
          zpow_add₀ two_ne_zero]
        push_cast
        ring
  case isFalse kept =>
    split
    case isTrue large =>
      simp only [isNegative_infinity, isFinite_infinity, Bool.false_eq_true, false_iff,
        false_implies, and_true, true_and]
      exact top_le_mul least (by omega)
    case isFalse small =>
      have short : m - 2 ^ 52 < 2 ^ 52 := by omega
      obtain ⟨finite_, value⟩ := magnitude_assemble negative
        (show 1 ≤ (q + 1075).toNat by omega) (by omega) short
      refine ⟨isNegative_assemble negative (by omega) short, ?_, fun _ => ?_⟩
      · exact iff_of_true finite_ (mul_lt_top (k := 53) (by omega) (by omega))
      · rw [value, show ((q + 1075).toNat : Int) - 1075 = q by omega,
          show 2 ^ 52 + (m - 2 ^ 52) = m by omega]

/-- How a positive quotient that is not too small is rounded: a finite result is at most one
part in `2 ^ 53` away, up to the greatest finite number the result is finite, and from the next
power of two on it is not. -/
structure Rounds (negative : Bool) (value : ℚ) (x : Binary64) : Prop where
  sign : x.isNegative = negative
  near : x.isFinite = true → |x.magnitude - value| ≤ value / 2 ^ 53
  finite : value ≤ top - top / 2 ^ 53 → x.isFinite = true
  infinite : top ≤ value → x.isFinite = false

/-- A quotient is rounded by at most one part in `2 ^ 53`. -/
theorem rounds_ofRatio (numPositive : 0 < num) (denPositive : 0 < den)
    (large : (2 : ℚ) ^ (-1022 : Int) ≤ num / den) :
    Rounds negative (num / den) (ofRatio negative num den) := by
  obtain ⟨q, normal, low, high, equal⟩ :=
    exists_ofRatio_eq negative numPositive denPositive large
  obtain ⟨least, most⟩ := scaled_bounds denPositive low high
  obtain ⟨sign, finite_, value⟩ := assembled_spec negative normal least most
  have unit : (0 : ℚ) < 2 ^ q := by positivity
  have half := abs_scaled_sub_le num denPositive q
  rw [← equal] at sign finite_ value
  refine ⟨sign, fun isFinite => ?_, fun bounded => ?_, fun beyond => ?_⟩
  · rw [value isFinite]
    calc |(scaled num den q : ℚ) * 2 ^ q - num / den|
        = |(scaled num den q : ℚ) - num / den / 2 ^ q| * 2 ^ q := by
          rw [← abs_of_pos unit, ← abs_mul, sub_mul, abs_of_pos unit,
            div_mul_cancel₀ _ unit.ne']
      _ ≤ 1 / 2 * 2 ^ q := by gcongr
      _ = 2 ^ (q + 52) / 2 ^ 53 := by rw [zpow_add₀ two_ne_zero]; norm_num; ring
      _ ≤ num / den / 2 ^ 53 := by gcongr
  · refine finite_.mpr ?_
    -- Rounding up to the next power of two matters at the last unit only, and the bound forbids it.
    rcases lt_trichotomy q 971 with lower | last | higher
    · exact mul_lt_top (k := 54) (by omega) (by omega)
    · have below : (scaled num den q : ℚ) < 2 ^ 53 := by
        have units : top = 2 ^ 53 * 2 ^ q := (pow_mul_unit (by omega)).symm
        have : (num : ℚ) / den / 2 ^ q ≤ 2 ^ 53 - 1 := by
          rw [div_le_iff₀ unit]
          calc (num : ℚ) / den ≤ top - top / 2 ^ 53 := bounded
            _ = (2 ^ 53 - 1) * 2 ^ q := by rw [units]; ring
        linarith [(abs_le.mp half).2]
      exact mul_lt_top (k := 53) (by exact_mod_cast below) (by omega)
    · have above : top ≤ 2 ^ (q + 52) := zpow_le_zpow_right₀ one_le_two (by omega)
      have := div_pos top_pos (show (0 : ℚ) < 2 ^ 53 by norm_num)
      linarith
  · have : (1024 : Int) < q + 53 :=
      (zpow_lt_zpow_iff_right₀ (a := (2 : ℚ)) one_lt_two).mp (beyond.trans_lt high)
    exact Bool.eq_false_iff.mpr (mt finite_.mp (top_le_mul least (by omega)))

/-- A whole number is rounded by at most one part in `2 ^ 53`. -/
theorem rounds_ofNat {n : Nat} (positive : 0 < n) : Rounds false n (ofNat n) := by
  have large : (2 : ℚ) ^ (-1022 : Int) ≤ (n : ℚ) / (1 : Nat) := by
    calc (2 : ℚ) ^ (-1022 : Int) ≤ 2 ^ (0 : Int) := zpow_le_zpow_right₀ one_le_two (by decide)
      _ = 1 := zpow_zero 2
      _ ≤ (n : ℚ) / (1 : Nat) := by rw [Nat.cast_one, div_one]; exact_mod_cast positive
  have rounds := rounds_ofRatio false positive Nat.one_pos large
  rwa [Nat.cast_one, div_one] at rounds

/-- A product is the rounded quotient of the products of numerators and of denominators. -/
theorem mul_eq_ofRatio {x : Binary64} (xFinite : x.isFinite = true) (y : Binary64) :
    x.mul y = ofRatio (x.isNegative != y.isNegative) (x.ratio.1 * y.ratio.1)
      (x.ratio.2 * y.ratio.2) := by
  simp only [mul, xFinite, Bool.not_true, Bool.false_eq_true, if_false]

/-- A product of numbers that are not small is rounded by at most one part in `2 ^ 53`. -/
theorem rounds_mul {x y : Binary64} (xFinite : x.isFinite = true)
    (xLarge : 1 / 2 ≤ x.magnitude) (yLarge : 1 / 2 ≤ y.magnitude) :
    Rounds (x.isNegative != y.isNegative) (x.magnitude * y.magnitude) (x.mul y) := by
  obtain ⟨xPositive, xRatio⟩ := ratio_spec x
  obtain ⟨yPositive, yRatio⟩ := ratio_spec y
  have product : x.magnitude * y.magnitude =
      ((x.ratio.1 * y.ratio.1 : Nat) : ℚ) / ((x.ratio.2 * y.ratio.2 : Nat) : ℚ) := by
    push_cast
    rw [← div_mul_div_comm, xRatio, yRatio]
  have numPositive {z : Binary64} (large : 1 / 2 ≤ z.magnitude) : 0 < z.ratio.1 := by
    refine Nat.pos_of_ne_zero fun zero => ?_
    rw [← (ratio_spec z).2, zero] at large
    norm_num at large
  rw [mul_eq_ofRatio xFinite, product]
  refine rounds_ofRatio _ (Nat.mul_pos (numPositive xLarge) (numPositive yLarge))
    (Nat.mul_pos xPositive yPositive) ?_
  rw [← product]
  calc (2 : ℚ) ^ (-1022 : Int) ≤ 2 ^ (-2 : Int) := zpow_le_zpow_right₀ one_le_two (by decide)
    _ = 1 / 2 * (1 / 2) := by norm_num
    _ ≤ x.magnitude * y.magnitude := by gcongr

/-- The opposite number differs in its sign only. -/
theorem neg_spec (x : Binary64) :
    x.neg.isNegative = !x.isNegative ∧ x.neg.magnitude = x.magnitude := by
  have bits : x.neg.bits.toNat = x.bits.toNat ^^^ 2 ^ 63 := by
    rw [neg, UInt64.toNat_xor]
    rfl
  have biased : x.neg.biased = x.biased := by
    rw [Binary64.biased, Binary64.biased, bits]
    simp only [Nat.pow_eq, Nat.xor_div_two_pow, Nat.xor_mod_two_pow]
    norm_num
  have fraction : x.neg.fraction = x.fraction := by
    rw [Binary64.fraction, Binary64.fraction, bits]
    simp only [Nat.pow_eq, Nat.xor_mod_two_pow]
    norm_num
  refine ⟨?_, ?_⟩
  · -- The sign is the quotient by `2 ^ 63`, which is 0 or 1.
    have sign (y : Binary64) : y.isNegative = decide (y.bits.toNat / 2 ^ 63 = 1) := by
      have := y.bits.toNat_lt
      rw [isNegative, Bool.eq_iff_iff, decide_eq_true_eq, decide_eq_true_eq, Nat.pow_eq]
      omega
    have least : x.bits.toNat / 2 ^ 63 < 2 := by
      have := x.bits.toNat_lt
      omega
    rw [sign, sign, bits, Nat.xor_div_two_pow]
    generalize x.bits.toNat / 2 ^ 63 = high at least
    interval_cases high <;> rfl
  · rw [magnitude, magnitude, significand, significand, exponent, exponent, biased, fraction]

end UtilityBilling.Number.Binary64
