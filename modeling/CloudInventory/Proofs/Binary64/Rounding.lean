import CloudInventory.Scalar.Basic
import Mathlib.Algebra.Field.Rat
import Mathlib.Algebra.Order.Field.Power
import Mathlib.Algebra.Order.Ring.Rat
import Mathlib.Data.Nat.Cast.Field
import Mathlib.Data.Nat.Cast.Order.Field
import Mathlib.Tactic.FieldSimp
import Mathlib.Tactic.Linarith
import Mathlib.Tactic.NormNum
import Mathlib.Tactic.Positivity
import Mathlib.Tactic.Ring

/-!
# One rounding

The operations on doubles compute a ratio of natural numbers exactly and round it
once. How far the double can lie from the ratio, and when it is the ratio itself, is
said here once for all of them.

Results:
1. `Binary64.roundsTo_ofRatio?`: the double is within half a unit in the last place of
   the ratio, and equals it where a double can.
2. `Binary64.roundsTo_ofNat?`, `Binary64.roundsTo_mul?` and `Binary64.roundsTo_div?`:
   natural numbers, products and quotients are rounded so.
3. `Binary64.toRat_of_trustedInt?` and `Binary64.trustedInt?_of_toRat`: an integer taken
   from a double is its exact value, and every value that is a small integer is taken.
-/

namespace CloudInventory

@[simp] theorem cast_twoPow (n : Nat) : ((twoPow n : Nat) : ℚ) = 2 ^ n := by
  show ((2 ^ n : Nat) : ℚ) = 2 ^ n
  exact Nat.cast_pow 2 n

/-- A power as the quotient of its whole parts. -/
theorem pow_toNat_div_pow_toNat (base : ℚ) (e : Int) :
    base ^ e.toNat / base ^ (-e).toNat = base ^ e := by
  rcases Int.le_total 0 e with above | below
  · obtain ⟨n, rfl⟩ := Int.eq_ofNat_of_zero_le above
    simp
  · obtain ⟨n, rfl⟩ := Int.exists_eq_neg_ofNat below
    simp

namespace Binary64

/-! ## The values of doubles -/

/-- The value of a double without its sign. -/
def magnitude (x : Binary64) : ℚ :=
  x.significand * 2 ^ x.exponent

/-- The exact value of a double. -/
def toRat (x : Binary64) : ℚ :=
  if x.negative then -x.magnitude else x.magnitude

theorem magnitude_nonneg (x : Binary64) : 0 ≤ x.magnitude :=
  mul_nonneg (Nat.cast_nonneg _) (zpow_nonneg (by decide) _)

@[simp] theorem magnitude_zero (negative : Bool) : (zero negative).magnitude = 0 := by
  simp [magnitude, zero]

theorem magnitude_eq_zero_iff (x : Binary64) : x.magnitude = 0 ↔ x.isZero = true := by
  have power : (2 : ℚ) ^ x.exponent ≠ 0 := zpow_ne_zero _ (by decide)
  simp [magnitude, isZero, power]

theorem abs_toRat (x : Binary64) : |x.toRat| = x.magnitude := by
  have nonneg := x.magnitude_nonneg
  cases sign : x.negative with
  | false => rw [toRat, sign, if_neg Bool.false_ne_true, abs_of_nonneg nonneg]
  | true => rw [toRat, sign, if_pos rfl, abs_neg, abs_of_nonneg nonneg]

/-! ## What one rounding can do -/

/-- `rounded` is a possible rounding of the value `v` that is not negative: half a unit
in the last place off at most, and not at all where a double carries the value. -/
structure RoundsTo (v rounded : ℚ) : Prop where
  normal : 1 / 2 ^ 1022 ≤ v → |rounded - v| ≤ v / 2 ^ 53
  subnormal : v ≤ 1 / 2 ^ 1022 → |rounded - v| ≤ 1 / 2 ^ 1075
  carried : ∀ {m : Nat} {j : Int}, m < 2 ^ 53 → -1074 ≤ j → v = m * 2 ^ j → rounded = v

theorem nearestQuotient_bounds (num : Nat) {den : Nat} (positive : 0 < den) :
    2 * num ≤ 2 * (nearestQuotient num den * den) + den ∧
      2 * (nearestQuotient num den * den) ≤ 2 * num + den := by
  have division := Nat.div_add_mod num den
  have small := Nat.mod_lt num positive
  have next : (num / den + 1) * den = num / den * den + den := Nat.succ_mul _ _
  rw [Nat.mul_comm] at division
  unfold nearestQuotient
  simp only
  split
  · omega
  · split
    · omega
    · split <;> omega

/-- Natural numbers less than one apart are equal. -/
theorem natCast_eq_of_abs_sub_lt_one {a b : Nat} (near : |(a : ℚ) - b| < 1) : a = b := by
  have near' : |(a : Int) - b| < 1 := by exact_mod_cast near
  have := Int.abs_lt_one_iff.1 near'
  omega

/-- The nearest natural number is at most one half away. -/
theorem abs_nearestQuotient_sub_le (num : Nat) {den : Nat} (positive : 0 < den) :
    |(nearestQuotient num den : ℚ) - num / den| ≤ 1 / 2 := by
  obtain ⟨above, below⟩ := nearestQuotient_bounds num positive
  have den_pos : (0 : ℚ) < den := Nat.cast_pos.2 positive
  have above' : (2 * num : ℚ) ≤ 2 * (nearestQuotient num den * den) + den := by
    exact_mod_cast above
  have below' : (2 * (nearestQuotient num den * den) : ℚ) ≤ 2 * num + den := by
    exact_mod_cast below
  rw [abs_le]
  constructor
  · rw [neg_le_sub_iff_le_add, div_le_iff₀ den_pos]
    linarith
  · rw [sub_le_iff_le_add, ← sub_le_iff_le_add', le_div_iff₀ den_pos]
    linarith

section

variable {num den : Nat}

/-- The binary logarithm of a ratio is a lower bound. -/
theorem pow_ratioLog2_le (num_pos : 0 < num) (den_pos : 0 < den) :
    (2 : ℚ) ^ ratioLog2 num den ≤ num / den := by
  have den_pos' : (0 : ℚ) < den := Nat.cast_pos.2 den_pos
  unfold ratioLog2
  simp only
  split
  next reached =>
    have reached' : (den * 2 ^ ((num.log2 : Int) - den.log2).toNat : ℚ) ≤
        num * 2 ^ (-((num.log2 : Int) - den.log2)).toNat := by
      rw [← cast_twoPow, ← cast_twoPow]
      exact_mod_cast reached
    rw [← pow_toNat_div_pow_toNat, div_le_div_iff₀ (by positivity) den_pos', mul_comm]
    exact reached'
  next =>
    have low : (2 : ℚ) ^ num.log2 ≤ num := by
      exact_mod_cast Nat.log2_self_le (Nat.ne_of_gt num_pos)
    have high : (den : ℚ) ≤ 2 ^ (den.log2 + 1) := by
      exact_mod_cast Nat.le_of_lt Nat.lt_log2_self
    have split : (num.log2 : Int) - den.log2 - 1 = num.log2 - (den.log2 + 1 : Nat) := by
      push_cast
      ring
    rw [split, zpow_sub₀ (by norm_num), zpow_natCast, zpow_natCast]
    exact div_le_div₀ (Nat.cast_nonneg num) low den_pos' high

/-- The exponent of the last place of the double nearest to a ratio. -/
def unitExponent (num den : Nat) : Int :=
  max (ratioLog2 num den - 52) (-1074)

/-- The rounded count of last places in a ratio. -/
def unitCount (num den : Nat) : Nat :=
  nearestQuotient (num * twoPow (-unitExponent num den).toNat)
    (den * twoPow (unitExponent num den).toNat)

theorem nearestParts_eq (num den : Nat) :
    nearestParts num den =
      if unitCount num den = 0x20000000000000 then (0x10000000000000, unitExponent num den + 1)
      else (unitCount num den, unitExponent num den) := rfl

/-- A significand of `2 ^ 53` moves into the exponent; the value stays. -/
theorem nearestParts_value (num den : Nat) :
    ((nearestParts num den).1 : ℚ) * 2 ^ (nearestParts num den).2 =
      unitCount num den * 2 ^ unitExponent num den := by
  rw [nearestParts_eq]
  split
  next carry =>
    rw [carry, zpow_add₀ (by norm_num), zpow_one]
    push_cast
    ring
  next => rfl

/-- A ratio in last places, as a ratio of natural numbers. -/
theorem div_unit_eq (num : Nat) (den_pos : 0 < den) :
    (num : ℚ) / den / 2 ^ unitExponent num den =
      ((num * twoPow (-unitExponent num den).toNat : Nat) : ℚ) /
        (den * twoPow (unitExponent num den).toNat : Nat) := by
  have den_ne : (den : ℚ) ≠ 0 := Nat.cast_ne_zero.2 (Nat.ne_of_gt den_pos)
  rw [← pow_toNat_div_pow_toNat]
  push_cast
  rw [cast_twoPow, cast_twoPow]
  field_simp

/-- The count of last places is off by one half at most. -/
theorem abs_unitCount_sub_le (num : Nat) (den_pos : 0 < den) :
    |(unitCount num den : ℚ) - num / den / 2 ^ unitExponent num den| ≤ 1 / 2 := by
  rw [div_unit_eq num den_pos]
  exact abs_nearestQuotient_sub_le _ (Nat.mul_pos den_pos (Nat.pow_pos (by decide)))

/-- Half of the least unit in the last place. -/
theorem half_leastUnit : (2 : ℚ) ^ (-1074 : Int) / 2 = 1 / 2 ^ 1075 := by
  rw [zpow_neg, zpow_ofNat, inv_eq_one_div, div_div, ← pow_succ]

/-- In the normal range half a unit is at most the value over `2 ^ 53`. -/
theorem half_unit_le {v : ℚ} (logarithm : (2 : ℚ) ^ ratioLog2 num den ≤ v)
    (normal : 1 / 2 ^ 1022 ≤ v) : (2 : ℚ) ^ unitExponent num den / 2 ≤ v / 2 ^ 53 := by
  rcases max_cases (ratioLog2 num den - 52) (-1074) with ⟨unit, -⟩ | ⟨unit, -⟩
  · have split : (2 : ℚ) ^ (ratioLog2 num den - 52) / 2 = 2 ^ ratioLog2 num den / 2 ^ 53 := by
      rw [zpow_sub₀ (by norm_num), zpow_ofNat, div_div, ← pow_succ]
    rw [unitExponent, unit, split]
    exact div_le_div_of_nonneg_right logarithm (by positivity)
  · have least : (1 : ℚ) / 2 ^ 1075 = 1 / 2 ^ 1022 / 2 ^ 53 := by
      rw [div_div, ← pow_add]
    rw [unitExponent, unit, half_leastUnit, least]
    exact div_le_div_of_nonneg_right normal (by positivity)

/-- Below the normal range the unit is the least one. -/
theorem unitExponent_of_small {v : ℚ} (logarithm : (2 : ℚ) ^ ratioLog2 num den ≤ v)
    (small : v ≤ 1 / 2 ^ 1022) : unitExponent num den = -1074 := by
  have bound : (2 : ℚ) ^ ratioLog2 num den ≤ 2 ^ (-1022 : Int) := by
    rw [zpow_neg, zpow_ofNat, inv_eq_one_div]
    exact le_trans logarithm small
  have := (zpow_le_zpow_iff_right₀ (by norm_num)).1 bound
  rw [unitExponent]
  omega

/-- A value of at most 53 places, none of them below the least unit, is counted in
whole units. -/
theorem unitExponent_le_of_carried {m : Nat} {j : Int} (short : m < 2 ^ 53) (least : -1074 ≤ j)
    (logarithm : (2 : ℚ) ^ ratioLog2 num den ≤ m * 2 ^ j) : unitExponent num den ≤ j := by
  have bound : (2 : ℚ) ^ ratioLog2 num den < 2 ^ (j + 53) := by
    have short' : (m : ℚ) < 2 ^ 53 := by exact_mod_cast short
    have power : (0 : ℚ) < 2 ^ j := zpow_pos (by norm_num) _
    rw [zpow_add₀ (by norm_num), zpow_ofNat, mul_comm]
    exact lt_of_le_of_lt logarithm (mul_lt_mul_of_pos_right short' power)
  have := (zpow_lt_zpow_iff_right₀ (by norm_num)).1 bound
  rw [unitExponent]
  omega

/-- The rounded parts of a positive ratio are one rounding away from it. -/
theorem roundsTo_nearestParts (num_pos : 0 < num) (den_pos : 0 < den) :
    RoundsTo (num / den) ((nearestParts num den).1 * 2 ^ (nearestParts num den).2) := by
  have logarithm := pow_ratioLog2_le num_pos den_pos
  have count := abs_unitCount_sub_le num den_pos
  have unit_pos : (0 : ℚ) < 2 ^ unitExponent num den := zpow_pos (by norm_num) _
  rw [nearestParts_value]
  generalize (num : ℚ) / den = v at logarithm count ⊢
  -- Half a unit in the last place, as a distance from the value.
  have half : |unitCount num den * 2 ^ unitExponent num den - v| ≤
      2 ^ unitExponent num den / 2 := by
    have scaled : unitCount num den * 2 ^ unitExponent num den - v =
        (unitCount num den - v / 2 ^ unitExponent num den) * 2 ^ unitExponent num den := by
      field_simp
    rw [scaled, abs_mul, abs_of_pos unit_pos]
    linarith [mul_le_mul_of_nonneg_right count (le_of_lt unit_pos)]
  refine ⟨fun normal => le_trans half (half_unit_le logarithm normal), fun small => ?_, ?_⟩
  · rw [unitExponent_of_small logarithm small, half_leastUnit] at half
    rw [unitExponent_of_small logarithm small]
    exact half
  · rintro m j short least rfl
    -- In whole units the rounded count and the exact one differ by one half at most.
    have places := unitExponent_le_of_carried short least logarithm
    obtain ⟨k, gap⟩ := Int.eq_ofNat_of_zero_le (Int.sub_nonneg.2 places)
    have units : (m * 2 ^ j : ℚ) / 2 ^ unitExponent num den = (m * 2 ^ k : Nat) := by
      rw [mul_div_assoc, ← zpow_sub₀ (by norm_num), gap]
      simp
    rw [units] at count
    have same := natCast_eq_of_abs_sub_lt_one (lt_of_le_of_lt count (by norm_num))
    rw [same, ← units, div_mul_cancel₀ _ (ne_of_gt unit_pos)]

/-- A double made from parts has their value. -/
theorem magnitude_of_ofParts? {negative : Bool} {significand : Nat} {exponent : Int}
    {x : Binary64} (made : ofParts? negative significand exponent = some x) :
    x.magnitude = significand * 2 ^ exponent := by
  obtain ⟨_, same⟩ := Option.dite_none_right_eq_some.1 made
  cases same
  rfl

/-- A ratio is rounded once. -/
theorem roundsTo_ofRatio? {negative : Bool} {x : Binary64} (den_pos : 0 < den)
    (made : ofRatio? negative num den = some x) : RoundsTo (num / den) x.magnitude := by
  rw [ofRatio?] at made
  split at made
  next empty =>
    cases made
    rw [empty, magnitude_zero, Nat.cast_zero, zero_div]
    exact ⟨fun _ => by simp, fun _ => by simp, fun _ _ _ => rfl⟩
  next filled =>
    rw [magnitude_of_ofParts? made]
    exact roundsTo_nearestParts (Nat.pos_of_ne_zero filled) den_pos

end

/-! ## The rounding operations -/

section

variable {x y z : Binary64}

/-- A natural number is rounded once. -/
theorem roundsTo_ofNat? {n : Nat} (made : ofNat? n = some x) : RoundsTo n x.magnitude := by
  have rounded := roundsTo_ofRatio? Nat.one_pos made
  rwa [Nat.cast_one, div_one] at rounded

/-- Parts with the powers of an exponent on either side of a ratio. -/
theorem cast_scaledRatio (a b : Nat) (e : Int) :
    ((a * twoPow e.toNat : Nat) : ℚ) / (b * twoPow (-e).toNat : Nat) = a / b * 2 ^ e := by
  rw [← pow_toNat_div_pow_toNat]
  push_cast
  rw [cast_twoPow, cast_twoPow, mul_div_mul_comm]

/-- A product is made from a ratio. -/
theorem ratio_of_mul? (made : x.mul? y = some z) :
    ∃ (negative : Bool) (num den : Nat), 0 < den ∧ ofRatio? negative num den = some z ∧
      (num : ℚ) / den = x.magnitude * y.magnitude := by
  refine ⟨_, _, _, Nat.pow_pos (by decide), made, ?_⟩
  have value := cast_scaledRatio (x.significand * y.significand) 1 (x.exponent + y.exponent)
  rw [Nat.one_mul, Nat.cast_one, div_one] at value
  refine value.trans ?_
  rw [magnitude, magnitude, zpow_add₀ (by norm_num)]
  push_cast
  ring

/-- A quotient is made from a ratio. -/
theorem ratio_of_div? (divisor : 0 < y.magnitude) (made : x.div? y = some z) :
    ∃ (negative : Bool) (num den : Nat), 0 < den ∧ ofRatio? negative num den = some z ∧
      (num : ℚ) / den = x.magnitude / y.magnitude := by
  have significand_pos : 0 < y.significand := by
    apply Nat.pos_of_ne_zero
    intro empty
    rw [magnitude, empty, Nat.cast_zero, zero_mul] at divisor
    exact lt_irrefl 0 divisor
  refine ⟨_, _, _, Nat.mul_pos significand_pos (Nat.pow_pos (by decide)), made, ?_⟩
  refine (cast_scaledRatio x.significand y.significand (x.exponent - y.exponent)).trans ?_
  rw [magnitude, magnitude, zpow_sub₀ (by norm_num), mul_div_mul_comm]

/-- A product is rounded once. -/
theorem roundsTo_mul? (made : x.mul? y = some z) :
    RoundsTo (x.magnitude * y.magnitude) z.magnitude := by
  obtain ⟨_, _, _, den_pos, ratio, value⟩ := ratio_of_mul? made
  exact value ▸ roundsTo_ofRatio? den_pos ratio

/-- A quotient is rounded once. -/
theorem roundsTo_div? (divisor : 0 < y.magnitude) (made : x.div? y = some z) :
    RoundsTo (x.magnitude / y.magnitude) z.magnitude := by
  obtain ⟨_, _, _, den_pos, ratio, value⟩ := ratio_of_div? divisor made
  exact value ▸ roundsTo_ofRatio? den_pos ratio

end

/-! ## Whole values -/

/-- The integer taken from a double is its exact value. -/
theorem toRat_of_toInt? {x : Binary64} {value : Int} (whole : x.toInt? = some value) :
    x.toRat = value := by
  rw [toInt?] at whole
  split at whole
  next divides =>
    have count : ((x.significand / twoPow (-x.exponent).toNat : Nat) : ℚ) =
        x.significand / 2 ^ (-x.exponent).toNat := by
      rw [Nat.cast_div (Nat.dvd_of_mod_eq_zero divides), cast_twoPow]
      exact Nat.cast_ne_zero.2 (Nat.ne_of_gt (Nat.pow_pos (by decide)))
    have value' : (((x.significand / twoPow (-x.exponent).toNat * twoPow x.exponent.toNat : Nat) :
        Int) : ℚ) = x.magnitude := by
      rw [magnitude, ← pow_toNat_div_pow_toNat]
      rw [Int.cast_natCast, Nat.cast_mul, count, cast_twoPow, div_mul_eq_mul_div, mul_div_assoc]
    cases whole
    cases sign : x.negative with
    | false => simpa [toRat, sign] using value'.symm
    | true => simpa [toRat, sign] using value'.symm
  next => cases whole

/-- A double whose exact value is an integer yields it. -/
theorem toInt?_of_toRat {x : Binary64} {value : Int} (whole : x.toRat = value) :
    x.toInt? = some value := by
  have size : (x.significand * 2 ^ x.exponent.toNat : ℚ) =
      value.natAbs * 2 ^ (-x.exponent).toNat := by
    have power : (2 : ℚ) ^ (-x.exponent).toNat ≠ 0 := pow_ne_zero _ (by decide)
    have magnitude_eq : x.magnitude = value.natAbs := by
      rw [← abs_toRat, whole, ← Int.cast_abs, Int.abs_eq_natAbs, Int.cast_natCast]
    rw [← magnitude_eq, magnitude, ← pow_toNat_div_pow_toNat]
    field_simp
  have size' : x.significand * 2 ^ x.exponent.toNat = value.natAbs * 2 ^ (-x.exponent).toNat := by
    exact_mod_cast size
  have divides : x.significand % twoPow (-x.exponent).toNat = 0 := by
    rcases Int.le_total 0 x.exponent with above | below
    · rw [Int.toNat_eq_zero.2 (by omega)]
      exact Nat.mod_one _
    · rw [Int.toNat_eq_zero.2 below, Nat.pow_zero, Nat.mul_one] at size'
      rw [size']
      exact Nat.mul_mod_left _ _
  cases found : x.toInt? with
  | none =>
    rw [toInt?] at found
    simp only [if_pos divides] at found
    cases found
  | some other =>
    have same : (other : ℚ) = value := by rw [← toRat_of_toInt? found, whole]
    rw [Int.cast_injective same]

/-- A trusted integer is the exact value of its double. -/
theorem toRat_of_trustedInt? {x : Binary64} {value : Int}
    (trusted : x.trustedInt? = some value) : x.toRat = value :=
  toRat_of_toInt? (Option.filter_eq_some_iff.1 trusted).1

theorem natAbs_le_of_trustedInt? {x : Binary64} {value : Int}
    (trusted : x.trustedInt? = some value) : value.natAbs ≤ 2 ^ 53 :=
  of_decide_eq_true (Option.filter_eq_some_iff.1 trusted).2

/-- An integer of at most `2 ^ 53` in size is trusted. -/
theorem trustedInt?_of_toRat {x : Binary64} {value : Int} (whole : x.toRat = value)
    (small : value.natAbs ≤ 2 ^ 53) : x.trustedInt? = some value :=
  Option.filter_eq_some_iff.2 ⟨toInt?_of_toRat whole, decide_eq_true small⟩

end Binary64

end CloudInventory
