/-
# What number a literal becomes

A literal stands for a rational number. A whole literal that fits in 64 bits becomes exactly
that number, and its text comes back. Any other becomes a floating-point number. Digits beyond
the first that fit in 64 bits are dropped, and three roundings follow at most, so what is read
of a whole literal is within one part in `2 ^ 50`. A literal that exceeds every floating-point
number by that much is out of range, and one that stays below `2 ^ 1024` by that much is not.
-/

import UtilityBilling.Proofs.Json.Literal
import UtilityBilling.Proofs.Number.Rounding

namespace UtilityBilling.Json

open UtilityBilling.Number

/-! ## Literals and powers of ten -/

namespace Literal

/-- The exponent that is written. -/
def shift (l : Literal) : Int :=
  match l.exponent with
  | none => 0
  | some e => e.value

/-- The magnitude that the digits stand for. -/
def mantissa (l : Literal) : ℚ :=
  continued 0 (l.whole ++ l.places) * 10 ^ (-(l.places.length : Int))

/-- The magnitude that a literal stands for. -/
def magnitude (l : Literal) : ℚ :=
  l.mantissa * 10 ^ l.shift

/-- The whole number that the digits before the point stand for. -/
def digits (l : Literal) : Nat :=
  continued 0 l.whole

end Literal

/-- Digits after a number, in `ℚ` and up to a power of ten. -/
theorem continued_zpow_bounds (start : Nat) (digits : List (Fin 10)) (k : Int) :
    (start : ℚ) * 10 ^ (k + digits.length) ≤ continued start digits * 10 ^ k ∧
      (continued start digits : ℚ) * 10 ^ k < (start + 1) * 10 ^ (k + digits.length) := by
  obtain ⟨low, high⟩ := continued_bounds start digits
  have low : (start : ℚ) * 10 ^ digits.length ≤ continued start digits := by exact_mod_cast low
  have high : (continued start digits : ℚ) < (start + 1) * 10 ^ digits.length := by
    exact_mod_cast high
  rw [add_comm k, zpow_add₀ (by norm_num), zpow_natCast, ← mul_assoc, ← mul_assoc]
  constructor <;> gcongr

/-- Two numbers with the same nineteen leading digits are within one part in `10 ^ 18`. -/
theorem near_of_leading {lead : Nat} (large : 10 ^ 18 ≤ lead) {k : Int} {x y : ℚ}
    (xLow : (lead : ℚ) * 10 ^ k ≤ x) (xHigh : x < (lead + 1) * 10 ^ k)
    (yLow : (lead : ℚ) * 10 ^ k ≤ y) (yHigh : y < (lead + 1) * 10 ^ k) :
    |x - y| ≤ y / 10 ^ 18 := by
  have large : (10 ^ 18 : ℚ) ≤ lead := by exact_mod_cast large
  have unit : (0 : ℚ) < 10 ^ k := by positivity
  have least : 10 ^ k ≤ y / 10 ^ 18 := by
    rw [le_div_iff₀ (by norm_num)]
    calc (10 : ℚ) ^ k * 10 ^ 18 = 10 ^ 18 * 10 ^ k := mul_comm _ _
      _ ≤ lead * 10 ^ k := by gcongr
      _ ≤ y := yLow
  rw [abs_le]
  constructor <;> linarith

/-- Digits that are left over hardly count: those before the point count by their number, and
those after it not at all. -/
theorem leading_near (keptWhole left kept dropped : List (Fin 10))
    (wholeLarge : left ≠ [] → 10 ^ 18 ≤ continued 0 keptWhole)
    (large : dropped ≠ [] → 10 ^ 18 ≤ continued (continued 0 keptWhole) kept) :
    let exact_ : ℚ := continued 0 (keptWhole ++ left ++ (kept ++ dropped)) *
      10 ^ (-((kept ++ dropped).length : Int))
    |(continued (continued 0 keptWhole) kept : ℚ) * 10 ^ ((left.length : Int) - kept.length) -
      exact_| ≤ exact_ / 10 ^ 18 := by
  dsimp only
  rw [List.append_assoc, continued_append 0 keptWhole]
  by_cases whole : left = []
  · subst whole
    rw [List.nil_append, continued_append _ kept]
    generalize continued (continued 0 keptWhole) kept = lead at *
    have shift : -((kept ++ dropped).length : Int) + dropped.length =
        (([] : List (Fin 10)).length : Int) - kept.length := by
      rw [List.length_append, List.length_nil]
      omega
    obtain ⟨low, high⟩ := continued_zpow_bounds lead dropped (-((kept ++ dropped).length : Int))
    rw [shift] at low high
    by_cases none_ : dropped = []
    · subst none_
      rw [← shift]
      simp only [continued, List.foldl_nil, List.length_nil, Nat.cast_zero, add_zero, sub_self,
        abs_zero]
      positivity
    · exact near_of_leading (large none_) le_rfl (by gcongr; linarith) low high
  · generalize continued 0 keptWhole = lead at *
    obtain ⟨xLow, xHigh⟩ := continued_zpow_bounds lead kept ((left.length : Int) - kept.length)
    obtain ⟨yLow, yHigh⟩ := continued_zpow_bounds lead (left ++ (kept ++ dropped))
      (-((kept ++ dropped).length : Int))
    rw [sub_add_cancel] at xLow xHigh
    have shift : -((kept ++ dropped).length : Int) + ((left ++ (kept ++ dropped)).length : Nat) =
        left.length := by
      simp only [List.length_append]
      omega
    rw [shift] at yLow yHigh
    exact near_of_leading (wholeLarge whole) xLow xHigh yLow yHigh

/-- The digits that fit are the leading digits of a literal. -/
theorem Literal.lead_near (l : Literal) :
    |(l.lead.1 : ℚ) * 10 ^ l.lead.2 - l.mantissa| ≤ l.mantissa / 10 ^ 18 := by
  obtain ⟨keptWhole, wholeSplit, wholeValue, wholeLarge⟩ := fit_spec 0 l.whole
  obtain ⟨kept, split_, value, large⟩ := fit_spec (fit 0 l.whole).1 l.places
  have near := leading_near keptWhole (fit 0 l.whole).2 kept
    (fit (fit 0 l.whole).1 l.places).2 (by rwa [← wholeValue]) (by rwa [← wholeValue, ← value])
  have scale : l.lead.2 = ((fit 0 l.whole).2.length : Int) - kept.length := by
    have := congrArg List.length split_
    rw [List.length_append] at this
    rw [lead]
    dsimp only
    omega
  rwa [← wholeSplit, ← split_, ← wholeValue, ← value, ← scale] at near

open Binary64

/-- The relative error of a product of two numbers that are within one part in `2 ^ 53`. -/
theorem product_near {x y x' y' : ℚ} (xPositive : 0 < x) (yPositive : 0 < y)
    (xNear : |x' - x| ≤ x / 2 ^ 53) (yNear : |y' - y| ≤ y / 2 ^ 53) :
    |x' * y' - x * y| ≤ x * y * (2 / 2 ^ 53 + 1 / 2 ^ 106) := by
  have split_ : x' * y' - x * y = (x' - x) * (y' - y) + (x' - x) * y + x * (y' - y) := by ring
  rw [split_]
  calc |(x' - x) * (y' - y) + (x' - x) * y + x * (y' - y)|
      ≤ |(x' - x) * (y' - y)| + |(x' - x) * y| + |x * (y' - y)| := abs_add_three _ _ _
    _ = |x' - x| * |y' - y| + |x' - x| * y + x * |y' - y| := by
        rw [abs_mul, abs_mul, abs_mul, abs_of_pos xPositive, abs_of_pos yPositive]
    _ ≤ x / 2 ^ 53 * (y / 2 ^ 53) + x / 2 ^ 53 * y + x * (y / 2 ^ 53) := by gcongr
    _ = x * y * (2 / 2 ^ 53 + 1 / 2 ^ 106) := by ring

/-- The magnitudes between which the range of the finite numbers ends, counted in whole numbers. -/
theorem top_eq : top = ((2 ^ 1024 : Nat) : ℚ) ∧ top / 2 ^ 53 = ((2 ^ 971 : Nat) : ℚ) := by
  have power (k : Nat) : (2 : ℚ) ^ (k : Int) = ((2 ^ k : Nat) : ℚ) := by
    rw [Nat.cast_pow, Nat.cast_ofNat, zpow_natCast]
  have units : top = 2 ^ 53 * 2 ^ (971 : Int) := (pow_mul_unit (by decide)).symm
  refine ⟨power 1024, ?_⟩
  rw [units, mul_div_cancel_left₀ _ (by norm_num)]
  exact power 971

/-- Whole numbers up to the greatest power of ten by which one multiplies are finite. -/
theorem isFinite_ofNat {n : Nat} (positive : 0 < n) (small : n ≤ 10 ^ 308) :
    (ofNat n).isFinite = true := by
  have fits : 10 ^ 308 + 2 ^ 971 ≤ 2 ^ 1024 := by decide +kernel
  refine (rounds_ofNat positive).finite ?_
  rw [le_sub_iff_add_le, top_eq.2, top_eq.1, ← Nat.cast_add]
  exact Nat.cast_le.mpr (le_trans (Nat.add_le_add_right small _) fits)

theorem half_le_magnitude_ofNat {n : Nat} (positive : 0 < n) (small : n ≤ 10 ^ 308) :
    1 / 2 ≤ (ofNat n).magnitude := by
  have near := abs_le.mp ((rounds_ofNat positive).near (isFinite_ofNat positive small))
  have least : (1 : ℚ) ≤ n := by exact_mod_cast positive
  linarith [near.1]

/-- What becomes of a magnitude that is scaled up: it is within one part in `2 ^ 51`, or out of
range. -/
structure Scales (value : ℚ) (scaled : Option Binary64) : Prop where
  near : ∀ x, scaled = some x → x.isNegative = false ∧ |x.magnitude - value| ≤ value / 2 ^ 51
  within : value ≤ top - top / 2 ^ 51 → scaled.isSome = true
  beyond : top + top / 2 ^ 51 ≤ value → scaled = none

/-- A product of rounded factors is rounded once more, unless it is out of range. -/
theorem scales_of_rounds {x : Binary64} {product value : ℚ} (positive : 0 < value)
    (near : |product - value| ≤ value * (2 / 2 ^ 53 + 1 / 2 ^ 106))
    (rounds : Rounds false product x) :
    Scales value (if x.isFinite then some x else none) := by
  have topPositive := top_pos
  have between := abs_le.mp near
  refine ⟨fun y found => ?_, fun bounded => ?_, fun above => ?_⟩
  · split at found
    case isTrue finite_ =>
      cases found
      have last := abs_le.mp (rounds.near finite_)
      refine ⟨rounds.sign, abs_le.mpr ⟨?_, ?_⟩⟩ <;> linarith
    case isFalse => cases found
  · rw [if_pos (rounds.finite (by linarith))]
    rfl
  · rw [if_neg (Bool.eq_false_iff.mp (rounds.infinite (by linarith)))]

/-- What is scaled up by more powers of ten than there are is out of range. -/
theorem top_add_top_le {n k : Nat} (positive : 0 < n) (far : 308 < k) :
    top + top ≤ (n : ℚ) * 10 ^ k := by
  have least : 2 ^ 1024 + 2 ^ 1024 ≤ 10 ^ 309 := by decide +kernel
  have most : 10 ^ 309 ≤ n * 10 ^ k :=
    le_trans (pow_le_pow_right₀ (by decide) far) (Nat.le_mul_of_pos_left _ positive)
  have cast : (n : ℚ) * 10 ^ k = ((n * 10 ^ k : Nat) : ℚ) := by push_cast; rfl
  rw [cast, top_eq.1, ← Nat.cast_add]
  exact Nat.cast_le.mpr (least.trans most)

/-- A whole number of 64 bits is scaled up by a power of ten with three roundings. -/
theorem scales_scaleByTen {n : Nat} (positive : 0 < n) (small : n ≤ maxUInt64) {exponent : Int}
    (up : 0 ≤ exponent) :
    Scales ((n : ℚ) * 10 ^ exponent) (scaleByTen 10 (ofNat n) exponent) := by
  obtain ⟨k, rfl⟩ := Int.eq_ofNat_of_zero_le up
  have small : n ≤ 10 ^ 308 := small.trans (by decide +kernel)
  have nNear := (rounds_ofNat positive).near (isFinite_ofNat positive small)
  have nPositive : (0 : ℚ) < n := by exact_mod_cast positive
  rw [scaleByTen, Int.natAbs_natCast, zpow_natCast]
  by_cases within : k ≤ 308
  · rw [if_pos within, if_pos up]
    have powerPositive : 0 < 10 ^ k := Nat.pow_pos (by decide)
    have powerSmall : 10 ^ k ≤ 10 ^ 308 := pow_le_pow_right₀ (by decide) within
    have powerNear := (rounds_ofNat powerPositive).near (isFinite_ofNat powerPositive powerSmall)
    have rounds := rounds_mul (isFinite_ofNat positive small)
      (half_le_magnitude_ofNat positive small)
      (half_le_magnitude_ofNat powerPositive powerSmall)
    have near := product_near nPositive (Nat.cast_pos.mpr powerPositive) nNear powerNear
    have sign : ((ofNat n).isNegative != (ofNat (10 ^ k)).isNegative) = false := by
      rw [(rounds_ofNat positive).sign, (rounds_ofNat powerPositive).sign]
      rfl
    rw [sign] at rounds
    rw [Nat.cast_pow, Nat.cast_ofNat] at near
    exact scales_of_rounds (by positivity) near rounds
  · have some_ : (ofNat n).significand ≠ 0 := by
      have half := half_le_magnitude_ofNat positive small
      intro zero
      rw [Binary64.magnitude, zero, Nat.cast_zero, zero_mul] at half
      norm_num at half
    have huge := top_add_top_le positive (Nat.not_le.mp within)
    rw [if_neg within, if_neg some_, if_pos up]
    refine ⟨fun y found => (by cases found), fun bounded => ?_, fun _ => rfl⟩
    have := top_pos
    linarith

/-- What is scaled down stays in range, and so does zero. -/
theorem isSome_scaleByTen (steps : Nat) (x : Binary64) {exponent : Int}
    (down : exponent < 0) : (scaleByTen steps x exponent).isSome = true := by
  induction steps generalizing x exponent with
  | zero => rfl
  | succ steps ih =>
      rw [scaleByTen]
      split
      case isTrue => rw [if_neg (by omega)]; rfl
      case isFalse far =>
        split
        case isTrue => rfl
        case isFalse => rw [if_neg (by omega)]; exact ih _ (by omega)

/-- A product with zero is zero. -/
theorem mul_of_zero (y : Binary64) :
    (ofNat 0).mul y = Binary64.zero ((ofNat 0).isNegative != y.isNegative) := by
  have finite_ : (ofNat 0).isFinite = true := by decide
  have num : (ofNat 0).ratio.1 = 0 := by decide
  rw [mul_eq_ofRatio finite_, num, Nat.zero_mul, ofRatio, if_pos (.inl rfl)]

theorem isSome_scaleByTen_zero (exponent : Int) :
    (scaleByTen 10 (ofNat 0) exponent).isSome = true := by
  rcases Int.lt_or_le exponent 0 with down | up
  · exact isSome_scaleByTen 10 _ down
  · have zero : (ofNat 0).significand = 0 := by decide
    have finite_ (negative : Bool) : (Binary64.zero negative).isFinite = true := by
      cases negative <;> rfl
    rw [scaleByTen]
    dsimp only
    by_cases near : exponent.natAbs ≤ 308
    · rw [if_pos near, if_pos up, mul_of_zero, if_pos (finite_ _)]
      rfl
    · rw [if_neg near, if_pos zero]
      rfl

namespace Literal

/-! ## The range of literals -/

theorem mantissa_nonneg (l : Literal) : 0 ≤ l.mantissa := by
  rw [mantissa]
  positivity

theorem magnitude_nonneg (l : Literal) : 0 ≤ l.magnitude :=
  mul_nonneg l.mantissa_nonneg (by positivity)

theorem lead_le (l : Literal) : l.lead.1 ≤ maxUInt64 :=
  fit_le (fit_le (Nat.zero_le _) _) _

/-- The digits that fit and their exponent make up the magnitude but for one part in `10 ^ 18`. -/
theorem lead_magnitude_near (l : Literal) :
    |(l.lead.1 : ℚ) * 10 ^ (l.lead.2 + l.shift) - l.magnitude| ≤ l.magnitude / 10 ^ 18 := by
  have unit : (0 : ℚ) < 10 ^ l.shift := by positivity
  rw [magnitude, zpow_add₀ (by norm_num), ← mul_assoc, ← sub_mul, abs_mul, abs_of_pos unit,
    mul_div_right_comm]
  exact mul_le_mul_of_nonneg_right l.lead_near unit.le

/-- Without a positive exponent a magnitude is far from the end of the range. -/
theorem magnitude_small {l : Literal} (down : l.lead.2 + l.shift ≤ 0) :
    l.magnitude < top - top / 2 ^ 50 := by
  have unit : (10 : ℚ) ^ (l.lead.2 + l.shift) ≤ 1 := zpow_le_one_of_nonpos₀ (by norm_num) down
  have lead : (l.lead.1 : ℚ) * 10 ^ (l.lead.2 + l.shift) ≤ l.lead.1 :=
    mul_le_of_le_one_right (by positivity) unit
  have near := abs_le.mp l.lead_magnitude_near
  have small : ((4 * l.lead.1 : Nat) : ℚ) ≤ top := by
    rw [top_eq.1]
    exact Nat.cast_le.mpr <|
      le_trans (Nat.mul_le_mul_left 4 l.lead_le) (by decide +kernel)
  rw [Nat.cast_mul, Nat.cast_ofNat] at small
  have := top_pos
  linarith [near.1, l.magnitude_nonneg]

/-- A number that is not zero has digits that fit. -/
theorem lead_pos {l : Literal} (positive : 0 < l.magnitude) : 0 < l.lead.1 := by
  refine Nat.pos_of_ne_zero fun zero => ?_
  have near := abs_le.mp l.lead_magnitude_near
  rw [zero, Nat.cast_zero, zero_mul] at near
  linarith [near.1]

theorem natAbs_shift_of_some {l : Literal} {e : Exponent} (some_ : l.exponent = some e) :
    l.shift.natAbs = e.size ∧ (0 < e.size → (e.isNegative = false ↔ 0 < l.shift)) := by
  rw [shift, some_]
  dsimp only [Exponent.value]
  cases e.isNegative with
  | false =>
      simp only [Bool.false_eq_true, if_false, true_iff]
      exact ⟨by omega, fun positive => by omega⟩
  | true =>
      simp only [if_true, Bool.true_eq_false, false_iff]
      exact ⟨by omega, fun positive => by omega⟩

/-- An exponent that fits in 31 bits is added to that of the digits. -/
theorem float?_eq {l : Literal} (fits : l.shift.natAbs ≤ maxExponent) :
    l.float? = floatFrom l.negative l.lead.1 (l.lead.2 + l.shift) := by
  cases exponent : l.exponent with
  | none => rw [float?, shift, exponent, floatWith, add_zero]
  | some e =>
      rw [(natAbs_shift_of_some exponent).1] at fits
      rw [float?, shift, exponent, floatWith, if_pos fits]

/-- An exponent that does not fit makes a number zero or too large. -/
theorem float?_huge {l : Literal} (huge : maxExponent < l.shift.natAbs) : ¬ l.IsWhole ∧
    l.float? = if l.lead.1 ≠ 0 ∧ 0 < l.shift then none else some (Binary64.zero l.negative) := by
  cases exponent : l.exponent with
  | none =>
      rw [shift, exponent] at huge
      exact absurd huge (by decide)
  | some e =>
      obtain ⟨size, sign⟩ := natAbs_shift_of_some exponent
      rw [size] at huge
      refine ⟨fun whole => ?_, ?_⟩
      · rw [IsWhole, exponent] at whole
        exact Bool.false_ne_true whole.2
      · rw [float?, exponent, floatWith, if_neg (Nat.not_le.mpr huge)]
        simp only [sign (Nat.zero_lt_of_lt huge)]

theorem isSome_num? {l : Literal} (float : l.float?.isSome = true) : l.num?.isSome = true := by
  rw [num?]
  split
  case isTrue => rfl
  case isFalse => rwa [Option.isSome_map]

theorem isSome_floatFrom {negative : Bool} {digits : Nat} {exponent : Int} :
    (floatFrom negative digits exponent).isSome =
      (scaleByTen 10 (Binary64.ofNat digits) exponent).isSome :=
  Option.isSome_map ..

/-- A number that stays below `2 ^ 1024` by one part in `2 ^ 50` is read, unless its exponent
has more than 31 bits. -/
theorem num?_within {l : Literal} (bounded : l.magnitude ≤ top - top / 2 ^ 50) :
    l.num?.isSome = true ∨ maxExponent < l.shift := by
  by_cases fits : l.shift.natAbs ≤ maxExponent
  · refine .inl (isSome_num? ?_)
    rw [float?_eq fits, isSome_floatFrom]
    rcases Nat.eq_zero_or_pos l.lead.1 with zero | positive
    · rw [zero]
      exact isSome_scaleByTen_zero _
    · rcases Int.lt_or_le (l.lead.2 + l.shift) 0 with down | up
      · exact isSome_scaleByTen 10 _ down
      · have near := abs_le.mp l.lead_magnitude_near
        have := top_pos
        exact (scales_scaleByTen positive l.lead_le up).within (by linarith [near.2])
  · by_cases down : l.shift < 0
    · refine .inl (isSome_num? ?_)
      rw [(float?_huge (Nat.not_le.mp fits)).2, if_neg (fun both => absurd both.2 (by omega))]
      rfl
    · exact .inr (by omega)

/-- A number that exceeds `2 ^ 1024` by one part in `2 ^ 50` is out of range, unless its
exponent has more than 31 bits. -/
theorem num?_beyond {l : Literal} (above : top + top / 2 ^ 50 ≤ l.magnitude) :
    l.num? = none ∨
      l.shift < -maxExponent ∧ l.num? = some (.float (Binary64.zero l.negative)) := by
  have := top_pos
  have positive := lead_pos (l := l) (by linarith)
  have up : 0 < l.lead.2 + l.shift := by
    refine Int.not_le.mp fun down => ?_
    linarith [magnitude_small down]
  by_cases fits : l.shift.natAbs ≤ maxExponent
  · have near := abs_le.mp l.lead_magnitude_near
    have none_ : l.float? = none := by
      rw [float?_eq fits, floatFrom,
        (scales_scaleByTen positive l.lead_le up.le).beyond (by linarith [near.1])]
      rfl
    refine .inl ?_
    rw [num?, none_, if_neg]
    · rfl
    · -- A whole number that fits has no positive exponent.
      rintro ⟨⟨noPlaces, noExponent⟩, left⟩
      rw [lead, shift, Option.isNone_iff_eq_none.mp noExponent] at up
      dsimp only at up
      rw [left] at up
      exact absurd up (by simp)
  · obtain ⟨notWhole, float⟩ := float?_huge (Nat.not_le.mp fits)
    rw [num?, if_neg (fun both => notWhole both.1), float]
    by_cases large : 0 < l.shift
    · rw [if_pos ⟨positive.ne', large⟩]
      exact .inl rfl
    · rw [if_neg (fun both => large both.2)]
      exact .inr ⟨by omega, rfl⟩

/-! ## Whole literals -/

/-- The digits of a number without leading zeros are those that it is written with. -/
theorem toDigits_continued {whole : List (Fin 10)} (written : whole ≠ [])
    (plain : whole.head? = some 0 → whole = [0]) :
    Nat.toDigits 10 (continued 0 whole) = whole.map digitChar := by
  induction whole using List.reverseRecOn with
  | nil => exact absurd rfl written
  | append_singleton digits d ih =>
      rw [continued_append, List.map_append]
      change Nat.toDigits 10 (continued 0 digits * 10 + d) = digits.map digitChar ++ [digitChar d]
      by_cases none_ : digits = []
      · subst none_
        rw [show continued 0 [] * 10 + d.val = d.val from (Nat.zero_add d.val)]
        exact Nat.toDigits_of_lt_base d.isLt
      · obtain ⟨first, rest, rfl⟩ := List.exists_cons_of_ne_nil none_
        have first_ : first ≠ 0 := fun zero => by
          subst zero
          exact absurd (plain rfl) (by simp)
        have positive : 0 < continued 0 (first :: rest) := by
          have := (continued_bounds (0 * 10 + first) rest).1
          refine lt_of_lt_of_le (Nat.mul_pos ?_ (Nat.pow_pos (by decide))) this
          have : first.val ≠ 0 := fun zero => first_ (Fin.ext zero)
          omega
        rw [← ih none_ (fun zero => absurd (Option.some.inj zero) first_), mul_comm,
          ← Nat.toDigits_append_toDigits (by decide) positive d.isLt,
          Nat.toDigits_of_lt_base d.isLt]
        rfl

variable {l : Literal}

/-- The whole number that a whole literal stands for. -/
def integer (l : Literal) : Int :=
  if l.negative then -l.digits else l.digits

theorem IsWhole.chars_eq (whole : l.IsWhole) :
    l.chars = (if l.negative then ['-'] else []) ++ Nat.toDigits 10 l.digits := by
  rw [chars, unsigned, whole.1, Option.isNone_iff_eq_none.mp whole.2, digits,
    toDigits_continued l.written l.plain]
  exact congrArg _ (List.append_nil _)

theorem IsWhole.magnitude_eq (whole : l.IsWhole) : l.magnitude = l.digits := by
  rw [magnitude, mantissa, shift, whole.1, Option.isNone_iff_eq_none.mp whole.2, digits]
  simp

/-- The text of a whole number is that of its literal. -/
theorem IsWhole.chars_integer (whole : l.IsWhole) (sign : l.negative = true → 0 < l.digits) :
    (Num.whole l.integer).chars = l.chars := by
  rw [whole.chars_eq, integer]
  cases negative : l.negative with
  | false => rfl
  | true =>
      obtain ⟨n, same⟩ := Nat.exists_eq_succ_of_ne_zero (sign negative).ne'
      rw [same]
      rfl

/-- A whole literal of 64 bits without its sign is read as a whole number. -/
theorem IsWhole.num?_of_le (whole : l.IsWhole) (fits : l.digits ≤ maxUInt64) :
    l.num? = some (wholeOf l.negative l.digits) := by
  have kept : fit 0 l.whole = (l.digits, []) := fit_of_le fits
  rw [num?, kept, if_pos ⟨whole, rfl⟩]

/-- A whole literal of 64 bits keeps its value: between `-2 ^ 63` and `2 ^ 64 - 1` it is
read as the whole number that it stands for, the negative zero apart. -/
theorem IsWhole.num?_of_fits (whole : l.IsWhole) (low : -(2 ^ 63 : Int) ≤ l.integer)
    (high : l.integer < 2 ^ 64) (sign : l.negative = true → 0 < l.digits) :
    l.num? = some (.whole l.integer) := by
  rw [integer] at low high ⊢
  have unsigned : maxUInt64 = 2 ^ 64 - 1 := rfl
  have signed : maxInt64 = 2 ^ 63 - 1 := rfl
  cases negative : l.negative with
  | false =>
      rw [negative, if_neg Bool.false_ne_true] at high
      rw [whole.num?_of_le (by omega), negative]
      rfl
  | true =>
      have positive := sign negative
      rw [negative, if_pos rfl] at low
      rw [whole.num?_of_le (by omega), negative, wholeOf, Bool.not_true, if_neg Bool.false_ne_true,
        if_neg (by omega)]
      rfl

/-- Only what fits in 64 bits is read as a whole number. -/
theorem IsWhole.fits_of_num? (whole : l.IsWhole) {value : Int}
    (found : l.num? = some (.whole value)) :
    -(2 ^ 63 : Int) ≤ l.integer ∧ l.integer < 2 ^ 64 := by
  have unsigned : maxUInt64 = 2 ^ 64 - 1 := rfl
  have signed : maxInt64 = 2 ^ 63 - 1 := rfl
  rcases Nat.lt_or_ge maxUInt64 l.digits with large | fits
  · rw [num?, if_neg (fun both => fit_left (Nat.zero_le _) large both.2)] at found
    obtain ⟨x, -, same⟩ := Option.map_eq_some_iff.mp found
    cases same
  · rw [whole.num?_of_le fits, wholeOf, Option.some.injEq] at found
    rw [integer]
    cases negative : l.negative with
    | false =>
        rw [if_neg Bool.false_ne_true]
        omega
    | true =>
        rw [negative, Bool.not_true, if_neg Bool.false_ne_true] at found
        rw [if_pos rfl]
        split at found
        case isTrue => cases found
        case isFalse => omega

/-- A negative zero is read as such. -/
theorem IsWhole.num?_of_zero (whole : l.IsWhole) (negative : l.negative = true)
    (zero : l.digits = 0) : l.num? = some (.float (Binary64.zero true)) := by
  rw [whole.num?_of_le (by rw [zero]; exact Nat.zero_le _), negative, zero]
  decide

/-- A floating-point number whose sign is set where one wants it. -/
theorem signed_spec {negative : Bool} {x y : Binary64} (plain : x.isNegative = false)
    (same : (if negative then x.neg else x) = y) :
    y.isNegative = negative ∧ y.magnitude = x.magnitude := by
  obtain ⟨sign, magnitude⟩ := neg_spec x
  subst same
  cases negative with
  | false => exact ⟨plain, rfl⟩
  | true => exact ⟨by rw [if_pos rfl, sign, plain]; rfl, by rw [if_pos rfl, magnitude]⟩

/-- A whole literal of more than 64 bits is within one part in `2 ^ 50`. -/
theorem IsWhole.near_of_lt (whole : l.IsWhole) (large : maxUInt64 < l.digits) {x : Binary64}
    (found : l.num? = some (.float x)) :
    x.isNegative = l.negative ∧ |x.magnitude - l.digits| ≤ l.digits / 2 ^ 50 := by
  have left : (fit 0 l.whole).2 ≠ [] := fit_left (Nat.zero_le _) large
  obtain ⟨-, -, -, leading⟩ := fit_spec 0 l.whole
  have noShift : l.shift = 0 := by rw [shift, Option.isNone_iff_eq_none.mp whole.2]
  have lead : l.lead = ((fit 0 l.whole).1, ((fit 0 l.whole).2.length : Int)) := by
    rw [Literal.lead, whole.1]
    simp [fit]
  rw [num?, if_neg (fun both => left both.2), float?_eq (by rw [noShift]; decide), noShift,
    add_zero, floatFrom] at found
  obtain ⟨y, made, same⟩ := Option.map_eq_some_iff.mp found
  obtain ⟨z, scaled, signed⟩ := Option.map_eq_some_iff.mp made
  cases same
  have positive : 0 < l.lead.1 := by
    rw [lead]
    exact lt_of_lt_of_le (by decide) (leading left)
  obtain ⟨plain, close⟩ := (scales_scaleByTen positive l.lead_le
    (by rw [lead]; exact Int.natCast_nonneg _)).near z scaled
  obtain ⟨sign, magnitude⟩ := signed_spec plain signed
  have drop := abs_le.mp l.lead_magnitude_near
  rw [noShift, add_zero, whole.magnitude_eq] at drop
  have close := abs_le.mp close
  have : (0 : ℚ) ≤ l.digits := Nat.cast_nonneg _
  rw [magnitude]
  refine ⟨sign, abs_le.mpr ⟨?_, ?_⟩⟩ <;> linarith

/-- A number of 64 bits with its sign set is within one part in `2 ^ 50`. -/
theorem near_neg_ofNat {n : Nat} (fits : n ≤ maxUInt64) :
    (Binary64.ofNat n).neg.isNegative = true ∧
      |(Binary64.ofNat n).neg.magnitude - n| ≤ n / 2 ^ 50 := by
  rcases Nat.eq_zero_or_pos n with rfl | positive
  · have zero : (Binary64.ofNat 0).neg.magnitude = 0 := by
      rw [Binary64.magnitude, show (Binary64.ofNat 0).neg.significand = 0 by decide,
        Nat.cast_zero, zero_mul]
    rw [zero]
    exact ⟨by decide, by simp⟩
  · have rounds := rounds_ofNat positive
    obtain ⟨sign, magnitude⟩ := neg_spec (Binary64.ofNat n)
    have near := rounds.near (isFinite_ofNat positive (fits.trans (by decide +kernel)))
    have : (0 : ℚ) ≤ n := Nat.cast_nonneg _
    rw [sign, rounds.sign, magnitude]
    exact ⟨rfl, near.trans (by linarith)⟩

/-- What else a whole literal is read as is within one part in `2 ^ 50`. -/
theorem IsWhole.near (whole : l.IsWhole) {x : Binary64} (found : l.num? = some (.float x)) :
    x.isNegative = l.negative ∧ |x.magnitude - l.digits| ≤ l.digits / 2 ^ 50 := by
  rcases Nat.lt_or_ge maxUInt64 l.digits with large | fits
  · exact whole.near_of_lt large found
  · rw [whole.num?_of_le fits, wholeOf, Option.some.injEq] at found
    cases negative : l.negative with
    | false =>
        rw [negative, Bool.not_false, if_pos rfl] at found
        cases found
    | true =>
        rw [negative, Bool.not_true, if_neg Bool.false_ne_true] at found
        split at found
        case isFalse => cases found
        case isTrue =>
          cases found
          exact near_neg_ofNat fits

end Literal

end UtilityBilling.Json
