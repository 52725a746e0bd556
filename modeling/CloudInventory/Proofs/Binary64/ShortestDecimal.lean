import CloudInventory.Binary64.Shortest
import CloudInventory.Proofs.Binary64.ReadBack
import CloudInventory.Proofs.Text.Numeral

/-!
# The shortest decimal

The decimal by which a double is shown is, of all that are rounded to it, one with the
fewest digits, and of those the nearest. A decimal of at most fifteen digits is the only
one of so few digits in the interval of its double, so it is shown as it is.

Results:
1. `Binary64.IsShortest.unique`: there is at most one shortest decimal.
2. `Binary64.isShortest_of_fifteen`: a decimal of fifteen digits is the shortest one.
3. `Binary64.decimalExponent_bounds`: the place of the first digit.
4. `Binary64.onGrid?_spec` and `Binary64.not_roundsFrom_of_onGrid?`: what is found among the
   decimals of one last place, and what it means that none is.
5. `Binary64.exists_seventeen`: seventeen digits suffice.
6. `Binary64.isShortest_shortest`: what is found is the shortest decimal.
-/

namespace CloudInventory

/-- The value of a decimal. -/
def Decimal.toRat (d : Decimal) : ℚ :=
  d.digits * 10 ^ d.exponent

/-- Zeros at the end of the digits do not count. -/
theorem Decimal.toRat_normalize (digits : Nat) (exponent : Int) :
    (Decimal.normalize digits exponent).toRat = digits * 10 ^ exponent := by
  fun_induction Decimal.normalize digits exponent with
  | case1 digits exponent divides ih =>
    have whole : digits = digits / 10 * 10 := by omega
    rw [ih, zpow_add₀ (by norm_num), zpow_one, mul_comm ((10 : ℚ) ^ exponent), ← mul_assoc]
    congr 1
    exact_mod_cast whole.symm
  | case2 digits exponent => rfl

/-- The value can be written with so many digits, zeros at the end not counted. -/
def HasDigits (count : Nat) (v : ℚ) : Prop :=
  ∃ (digits : Nat) (exponent : Int), digits < 10 ^ count ∧ v = digits * 10 ^ exponent

theorem HasDigits.mono {count more : Nat} {v : ℚ} (has : HasDigits count v) (le : count ≤ more) :
    HasDigits more v := by
  obtain ⟨digits, exponent, few, rfl⟩ := has
  exact ⟨digits, exponent, Nat.lt_of_lt_of_le few (Nat.pow_le_pow_right (by decide) le), rfl⟩

theorem hasDigits_zero_iff {v : ℚ} : HasDigits 0 v ↔ v = 0 := by
  constructor
  · rintro ⟨digits, exponent, none, rfl⟩
    obtain rfl : digits = 0 := by omega
    simp
  · rintro rfl
    exact ⟨0, 0, by decide, by simp⟩

namespace Binary64

/-- The first value is nearer to the double than the second, or as near and not less. -/
def Nearer (x : Binary64) (v w : ℚ) : Prop :=
  |v - x.magnitude| < |w - x.magnitude| ∨
    |v - x.magnitude| = |w - x.magnitude| ∧ w ≤ v

/-- The value is the shortest decimal that is rounded to the double: of those with the
fewest digits the nearest, and the greater one of two. -/
structure IsShortestOf (x : Binary64) (count : Nat) (v : ℚ) : Prop where
  rounds : x.RoundsFrom v
  digits : HasDigits count v
  fewest : ∀ w, x.RoundsFrom w → ∀ fewer < count, ¬ HasDigits fewer w
  nearest : ∀ w, x.RoundsFrom w → HasDigits count w → x.Nearer v w

/-- The value is the shortest decimal for the double, of however many digits. -/
def IsShortest (x : Binary64) (v : ℚ) : Prop :=
  ∃ count, x.IsShortestOf count v

section

variable {x : Binary64} {v w : ℚ}

theorem Nearer.antisymm (first : x.Nearer v w) (second : x.Nearer w v) : v = w := by
  rcases first with less | ⟨same, le⟩
  · rcases second with greater | ⟨other, -⟩
    · exact absurd greater (lt_asymm less)
    · exact absurd other.symm (ne_of_lt less)
  · rcases second with greater | ⟨-, ge⟩
    · exact absurd same.symm (ne_of_lt greater)
    · exact le_antisymm ge le

/-- There is at most one shortest decimal. -/
theorem IsShortest.unique (first : x.IsShortest v) (second : x.IsShortest w) : v = w := by
  obtain ⟨count, first⟩ := first
  obtain ⟨other, second⟩ := second
  have same : count = other := by
    rcases Nat.lt_trichotomy count other with less | equal | greater
    · exact absurd first.digits (second.fewest v first.rounds count less)
    · exact equal
    · exact absurd second.digits (first.fewest w second.rounds other greater)
  subst same
  exact (first.nearest w second.rounds second.digits).antisymm
    (second.nearest v first.rounds first.digits)

end

/-! ## Fifteen digits -/

/-- A decimal is a multiple of every smaller power of ten. -/
theorem exists_multiple_of_le (digits : Nat) {scale exponent : Int} (le : scale ≤ exponent) :
    ∃ multiple : Nat, (digits : ℚ) * 10 ^ exponent = multiple * 10 ^ scale := by
  obtain ⟨n, gap⟩ := Int.eq_ofNat_of_zero_le (Int.sub_nonneg.2 le)
  refine ⟨digits * 10 ^ n, ?_⟩
  rw [show exponent = n + scale by omega, zpow_add₀ (by norm_num), zpow_natCast]
  push_cast
  ring

/-- Two multiples of a value are apart by that value. -/
theorem le_abs_mul_sub_mul {a b : Nat} {step : ℚ} (positive : 0 < step)
    (different : (a : ℚ) * step ≠ b * step) : step ≤ |a * step - b * step| := by
  have apart : (1 : ℚ) ≤ |(a : ℚ) - b| := by
    by_contra near
    exact different (congrArg (fun n : Nat => (n : ℚ) * step)
      (natCast_eq_of_abs_sub_lt_one (lt_of_not_ge near)))
  rw [← sub_mul, abs_mul, abs_of_pos positive]
  exact le_mul_of_one_le_left (le_of_lt positive) apart

/-- Two values of few digits are a good part of one of them apart. -/
theorem div_pow_lt_abs_sub {count : Nat} {v w : ℚ} (vDigits : HasDigits count v)
    (wDigits : HasDigits count w) (different : v ≠ w) : min v w / 10 ^ count < |v - w| := by
  obtain ⟨a, i, a_lt, rfl⟩ := vDigits
  obtain ⟨b, j, b_lt, rfl⟩ := wDigits
  -- The one with the smaller exponent is less than so many of its last places.
  have small (c : Nat) (k : Int) (few : c < 10 ^ count) :
      (c : ℚ) * 10 ^ k / 10 ^ count < 10 ^ k := by
    have few' : (c : ℚ) < 10 ^ count := by exact_mod_cast few
    rw [div_lt_iff₀ (by positivity), mul_comm]
    exact mul_lt_mul_of_pos_left few' (zpow_pos (by norm_num) k)
  rcases Int.le_total i j with le | le
  · obtain ⟨multiple, same⟩ := exists_multiple_of_le b le
    rw [same] at different ⊢
    refine lt_of_lt_of_le (lt_of_le_of_lt ?_ (small a i a_lt))
      (le_abs_mul_sub_mul (zpow_pos (by norm_num) i) different)
    exact div_le_div_of_nonneg_right (min_le_left _ _) (by positivity)
  · obtain ⟨multiple, same⟩ := exists_multiple_of_le a le
    rw [same] at different ⊢
    refine lt_of_lt_of_le (lt_of_le_of_lt ?_ (small b j b_lt))
      (le_abs_mul_sub_mul (zpow_pos (by norm_num) j) different)
    exact div_le_div_of_nonneg_right (min_le_right _ _) (by positivity)

section

variable {x : Binary64} {v w : ℚ}

/-- In the normal range only one value of fifteen digits is rounded to a double. -/
theorem eq_of_fifteen (normal : 2 ^ 52 ≤ x.significand) (first : x.RoundsFrom v)
    (second : x.RoundsFrom w) (vDigits : HasDigits 15 v) (wDigits : HasDigits 15 w) : v = w := by
  by_contra different
  have positive := x.unit_pos
  have normal' : (2 ^ 52 : ℚ) ≤ x.significand := by exact_mod_cast normal
  have size := mul_le_mul_of_nonneg_right normal' (le_of_lt positive)
  rw [← magnitude_eq] at size
  have vNear := abs_le.1 first.abs_sub_magnitude_le
  have wNear := abs_le.1 second.abs_sub_magnitude_le
  have apart := div_pow_lt_abs_sub vDigits wDigits different
  have close := first.abs_sub_le second
  have low : x.magnitude - x.unit ≤ min v w := by
    rw [le_min_iff]
    constructor <;> linarith [vNear.1, wNear.1]
  have bound := div_le_div_of_nonneg_right low (by norm_num : (0 : ℚ) ≤ 10 ^ 15)
  norm_num at size bound apart
  linarith

/-- A value of at most fifteen digits is the shortest decimal of its double. -/
theorem isShortest_of_fifteen (normal : 2 ^ 52 ≤ x.significand) (rounds : x.RoundsFrom v)
    (few : HasDigits 15 v) : x.IsShortest v := by
  classical
  have some : ∃ count, HasDigits count v := ⟨15, few⟩
  have least : Nat.find some ≤ 15 := Nat.find_min' some few
  refine ⟨Nat.find some, rounds, Nat.find_spec some, ?_, ?_⟩
  · intro w roundsToo fewer less has
    have same := eq_of_fifteen normal rounds roundsToo few (has.mono (by omega))
    exact Nat.find_min some less (same ▸ has)
  · intro w roundsToo has
    have same := eq_of_fifteen normal rounds roundsToo few (has.mono least)
    exact .inr ⟨congrArg (fun u => |u - x.magnitude|) same, le_of_eq same.symm⟩

end

/-! ## The first digit -/

/-- A number is between two powers of ten by the length of its numeral. -/
theorem exists_length_numeral {n : Nat} (positive : 0 < n) :
    ∃ places, (Text.numeral n).length = places + 1 ∧ 10 ^ places ≤ n ∧ n < 10 ^ (places + 1) := by
  obtain ⟨places, length⟩ := Nat.exists_eq_succ_of_ne_zero
    (Nat.ne_of_gt (List.length_pos_iff.2 (Text.numeral_ne_nil n)))
  have upper : n < 10 ^ (places + 1) :=
    (Nat.length_toDigits_le_iff (by decide) (Nat.succ_pos places)).1 (Nat.le_of_eq length)
  refine ⟨places, length, ?_, upper⟩
  rcases Nat.eq_zero_or_pos places with rfl | more
  · exact positive
  · by_contra below
    have shorter := (Nat.length_toDigits_le_iff (by decide) more).2 (Nat.lt_of_not_le below)
    have length' : (Nat.toDigits 10 n).length = places + 1 := length
    omega

/-- The first digit of a ratio that has a whole part. -/
theorem ratio_bounds_of_whole {num den : Nat} (den_pos : 0 < den) (whole : num / den ≠ 0) :
    let places : Int := ((Text.numeral (num / den)).length : Int) - 1
    (10 : ℚ) ^ places ≤ num / den ∧ num / den < (10 : ℚ) ^ (places + 1) := by
  obtain ⟨places, length, low, high⟩ := exists_length_numeral (Nat.pos_of_ne_zero whole)
  have lower : 10 ^ places * den ≤ num :=
    (Nat.mul_le_mul_right _ low).trans (Nat.div_mul_le_self num den)
  have upper : num < 10 ^ (places + 1) * den :=
    calc num < (num / den + 1) * den := by
          rw [Nat.add_mul, Nat.one_mul]
          exact Nat.lt_div_mul_add den_pos
      _ ≤ 10 ^ (places + 1) * den := Nat.mul_le_mul_right _ high
  have den_pos' : (0 : ℚ) < den := Nat.cast_pos.2 den_pos
  rw [length, show ((places + 1 : Nat) : Int) - 1 = (places : Int) by omega]
  simp only
  rw [← Nat.cast_succ, zpow_natCast, zpow_natCast, le_div_iff₀ den_pos', div_lt_iff₀ den_pos']
  exact ⟨by exact_mod_cast lower, by exact_mod_cast upper⟩

/-- The first digit of a ratio below one: its places are those of the inverse. -/
theorem ratio_bounds_of_small {num den : Nat} (num_pos : 0 < num) (small : num < den) :
    let places : Int := -((Text.numeral ((den + num - 1) / num - 1)).length : Int)
    (10 : ℚ) ^ places ≤ num / den ∧ num / den < (10 : ℚ) ^ (places + 1) := by
  have rounded := Nat.div_mul_le_self (den + num - 1) num
  have exceeds := Nat.lt_div_mul_add (a := den + num - 1) num_pos
  have two_le : 2 ≤ (den + num - 1) / num := (Nat.le_div_iff_mul_le num_pos).2 (by omega)
  generalize (den + num - 1) / num = inverse at *
  obtain ⟨places, length, low, high⟩ := exists_length_numeral (n := inverse - 1) (by omega)
  have lower : den ≤ 10 ^ (places + 1) * num :=
    calc den ≤ inverse * num := by omega
      _ ≤ 10 ^ (places + 1) * num := Nat.mul_le_mul_right _ (by omega)
  have upper : 10 ^ places * num < den := by
    have below : 10 ^ places * num ≤ (inverse - 1) * num := Nat.mul_le_mul_right _ low
    have step : (inverse - 1) * num + num = inverse * num := by
      rw [← Nat.succ_mul, Nat.succ_eq_add_one, Nat.sub_add_cancel (by omega)]
    omega
  have den_pos' : (0 : ℚ) < den := Nat.cast_pos.2 (Nat.zero_lt_of_lt small)
  rw [length]
  simp only
  rw [show -((places + 1 : Nat) : Int) + 1 = -(places : Int) by omega, zpow_neg, zpow_neg,
    zpow_natCast, zpow_natCast, le_div_iff₀ den_pos', div_lt_iff₀ den_pos',
    inv_mul_le_iff₀ (by positivity), lt_inv_mul_iff₀ (by positivity)]
  exact ⟨by exact_mod_cast lower, by exact_mod_cast upper⟩

/-- A double as a ratio of natural numbers. -/
theorem magnitude_eq_ratio (x : Binary64) :
    x.magnitude = ((x.significand * twoPow x.exponent.toNat : Nat) : ℚ) /
      (twoPow (-x.exponent).toNat : Nat) := by
  rw [magnitude, ← pow_toNat_div_pow_toNat]
  push_cast
  rw [cast_twoPow, cast_twoPow, mul_div_assoc]

/-- The place of the first digit of a double. -/
theorem decimalExponent_bounds {x : Binary64} (filled : x.significand ≠ 0) :
    (10 : ℚ) ^ x.decimalExponent ≤ x.magnitude ∧
      x.magnitude < 10 ^ (x.decimalExponent + 1) := by
  have den_pos : 0 < twoPow (-x.exponent).toNat := Nat.pow_pos (by decide)
  rw [magnitude_eq_ratio, decimalExponent]
  simp only
  split
  next small =>
    have below : x.significand * twoPow x.exponent.toNat < twoPow (-x.exponent).toNat :=
      (Nat.div_eq_zero_iff_lt den_pos).1 small
    have one : twoPow 0 = 1 := rfl
    have negative : x.exponent < 0 := by
      by_contra nonneg
      have factor : 0 < twoPow x.exponent.toNat := Nat.pow_pos (by decide)
      have filled' := Nat.mul_pos (Nat.pos_of_ne_zero filled) factor
      rw [show (-x.exponent).toNat = 0 by omega] at below
      omega
    rw [show x.exponent.toNat = 0 by omega, one, Nat.mul_one] at below ⊢
    exact ratio_bounds_of_small (Nat.pos_of_ne_zero filled) below
  next large => exact ratio_bounds_of_whole den_pos large

/-! ## One grid -/

section

variable {x : Binary64} {u v w step : ℚ}

theorem Nearer.refl (x : Binary64) (v : ℚ) : x.Nearer v v :=
  .inr ⟨rfl, le_rfl⟩

theorem Nearer.trans (first : x.Nearer u v) (second : x.Nearer v w) : x.Nearer u w := by
  rcases first with less | ⟨same, le⟩
  · rcases second with lessToo | ⟨sameToo, -⟩
    · exact .inl (lt_trans less lessToo)
    · exact .inl (sameToo ▸ less)
  · rcases second with lessToo | ⟨sameToo, leToo⟩
    · exact .inl (same ▸ lessToo)
    · exact .inr ⟨same.trans sameToo, leToo.trans le⟩

/-- Nothing is the shortest decimal wherever it is one at all. -/
theorem isShortest_zero (rounds : x.RoundsFrom 0) : x.IsShortest 0 := by
  refine ⟨0, rounds, hasDigits_zero_iff.2 rfl,
    fun _ _ _ fewer => absurd fewer (Nat.not_lt_zero _), fun w _ has => ?_⟩
  rw [hasDigits_zero_iff.1 has]
  exact Nearer.refl x 0

/-- Of two values below the double the greater one is nearer. -/
theorem nearer_of_le (below : v ≤ x.magnitude) (le : w ≤ v) : x.Nearer v w := by
  rcases eq_or_lt_of_le le with rfl | less
  · exact Nearer.refl x w
  · left
    rw [abs_of_nonpos (by linarith), abs_of_nonpos (by linarith)]
    linarith

/-- Of two values above the double the smaller one is nearer. -/
theorem nearer_of_ge (above : x.magnitude ≤ v) (ge : v ≤ w) : x.Nearer v w := by
  rcases eq_or_lt_of_le ge with rfl | less
  · exact Nearer.refl x v
  · left
    rw [abs_of_nonneg (by linarith), abs_of_nonneg (by linarith)]
    linarith

/-- Which of two neighbours is the nearer one depends on their middle. -/
theorem nearer_of_middle (below : v ≤ x.magnitude) (above : x.magnitude ≤ w) :
    (2 * (x.magnitude - v) < w - v → x.Nearer v w) ∧
      (w - v ≤ 2 * (x.magnitude - v) → x.Nearer w v) := by
  unfold Nearer
  rw [abs_of_nonpos (by linarith : v - x.magnitude ≤ 0),
    abs_of_nonneg (by linarith : 0 ≤ w - x.magnitude)]
  refine ⟨fun less => .inl (by linarith), fun ge => ?_⟩
  rcases eq_or_lt_of_le ge with same | less
  · exact .inr ⟨by linarith, by linarith⟩
  · exact .inl (by linarith)

end

/-- The numerator and the denominator of a double in steps of a grid. -/
def gridRatio (x : Binary64) (scale : Int) : Nat × Nat :=
  (x.significand * twoPow x.exponent.toNat * tenPow (-scale).toNat,
    twoPow (-x.exponent).toNat * tenPow scale.toNat)

section

variable (x : Binary64) (scale : Int)

theorem gridRatio_pos : 0 < (x.gridRatio scale).2 :=
  Nat.mul_pos (Nat.pow_pos (by decide)) (Nat.pow_pos (by decide))

theorem gridRatio_mul_eq :
    ((x.gridRatio scale).1 : ℚ) / (x.gridRatio scale).2 * 10 ^ scale = x.magnitude := by
  rw [magnitude_eq_ratio, ← pow_toNat_div_pow_toNat 10 scale, gridRatio]
  push_cast
  simp only [cast_twoPow, cast_tenPow]
  field_simp

/-- The multiple of a step that is next below a double. -/
def gridFloor : Nat :=
  (x.gridRatio scale).1 / (x.gridRatio scale).2

/-- A double between two multiples of a step, and its distance from the lower one. -/
theorem gridFloor_spec :
    (x.gridFloor scale : ℚ) * 10 ^ scale +
        ((x.gridRatio scale).1 % (x.gridRatio scale).2 : Nat) / (x.gridRatio scale).2 * 10 ^ scale =
      x.magnitude := by
  have den_pos : (0 : ℚ) < (x.gridRatio scale).2 := Nat.cast_pos.2 (x.gridRatio_pos scale)
  have division : ((x.gridRatio scale).2 : ℚ) * x.gridFloor scale +
      ((x.gridRatio scale).1 % (x.gridRatio scale).2 : Nat) = (x.gridRatio scale).1 := by
    exact_mod_cast Nat.div_add_mod (x.gridRatio scale).1 (x.gridRatio scale).2
  rw [← gridRatio_mul_eq x scale, ← division]
  field_simp

theorem gridFloor_le : (x.gridFloor scale : ℚ) * 10 ^ scale ≤ x.magnitude := by
  rw [← gridFloor_spec x scale]
  have rest : (0 : ℚ) ≤ ((x.gridRatio scale).1 % (x.gridRatio scale).2 : Nat) /
      (x.gridRatio scale).2 * 10 ^ scale := by positivity
  linarith

theorem lt_gridFloor_succ :
    x.magnitude < ((x.gridFloor scale + 1 : Nat) : ℚ) * 10 ^ scale := by
  have den_pos : (0 : ℚ) < (x.gridRatio scale).2 := Nat.cast_pos.2 (x.gridRatio_pos scale)
  have rest :
      (((x.gridRatio scale).1 % (x.gridRatio scale).2 : Nat) : ℚ) / (x.gridRatio scale).2 < 1 :=
    (div_lt_one den_pos).2 (Nat.cast_lt.2 (Nat.mod_lt _ (x.gridRatio_pos scale)))
  have step : (0 : ℚ) < 10 ^ scale := zpow_pos (by norm_num) _
  rw [← gridFloor_spec x scale, Nat.cast_succ, add_mul, one_mul, add_lt_add_iff_left]
  exact mul_lt_of_lt_one_left step rest

/-- The test of the middle between two multiples of a step. -/
theorem middle_le_iff :
    (x.gridRatio scale).2 ≤ 2 * ((x.gridRatio scale).1 % (x.gridRatio scale).2) ↔
      (10 : ℚ) ^ scale ≤ 2 * (x.magnitude - x.gridFloor scale * 10 ^ scale) := by
  have den_pos : (0 : ℚ) < (x.gridRatio scale).2 := Nat.cast_pos.2 (x.gridRatio_pos scale)
  have step : (0 : ℚ) < 10 ^ scale := zpow_pos (by norm_num) _
  rw [← gridFloor_spec x scale, add_sub_cancel_left, ← mul_assoc, le_mul_iff_one_le_left step,
    mul_div_assoc', one_le_div den_pos]
  norm_cast

/-- The nearer one of the two multiples next to a double, the greater one of both. -/
def nearestMultiple : Nat :=
  if (x.gridRatio scale).2 ≤ 2 * ((x.gridRatio scale).1 % (x.gridRatio scale).2) then
    x.gridFloor scale + 1
  else x.gridFloor scale

theorem onGrid?_eq :
    x.onGrid? .up scale =
      match x.readsBack (x.gridFloor scale) scale, x.readsBack (x.gridFloor scale + 1) scale with
      | true, true => some (x.nearestMultiple scale)
      | true, false => some (x.gridFloor scale)
      | false, true => some (x.gridFloor scale + 1)
      | false, false => none := by
  unfold onGrid? nearestMultiple gridFloor gridRatio
  simp only
  generalize x.significand * twoPow x.exponent.toNat * tenPow (-scale).toNat = num
  generalize twoPow (-x.exponent).toNat * tenPow scale.toNat = den
  rcases Nat.lt_trichotomy (2 * (num % den)) den with less | same | greater
  · rw [Nat.compare_eq_lt.2 less, if_neg (Nat.not_le.2 less)]
    rfl
  · rw [Nat.compare_eq_eq.2 same, if_pos (Nat.le_of_eq same.symm)]
    rfl
  · rw [Nat.compare_eq_gt.2 greater, if_pos (Nat.le_of_lt greater)]
    rfl

variable {x} {scale}

/-- Every multiple of a step that is rounded to a double has a neighbour of the double on
its side, which is rounded to it too and is nearer. -/
theorem RoundsFrom.neighbour {multiple : Nat} (rounds : x.RoundsFrom (multiple * 10 ^ scale)) :
    (x.RoundsFrom (x.gridFloor scale * 10 ^ scale) ∧
        x.Nearer (x.gridFloor scale * 10 ^ scale) (multiple * 10 ^ scale)) ∨
      (x.RoundsFrom ((x.gridFloor scale + 1 : Nat) * 10 ^ scale) ∧
        x.Nearer ((x.gridFloor scale + 1 : Nat) * 10 ^ scale) (multiple * 10 ^ scale)) := by
  have step : (0 : ℚ) ≤ 10 ^ scale := zpow_nonneg (by norm_num) _
  have below := x.gridFloor_le scale
  have above := le_of_lt (x.lt_gridFloor_succ scale)
  rcases Nat.lt_or_ge (x.gridFloor scale) multiple with greater | less
  · right
    have order : ((x.gridFloor scale + 1 : Nat) : ℚ) * 10 ^ scale ≤ multiple * 10 ^ scale :=
      mul_le_mul_of_nonneg_right (Nat.cast_le.2 greater) step
    exact ⟨x.roundsFrom_magnitude.of_between rounds above order, nearer_of_ge above order⟩
  · left
    have order : (multiple : ℚ) * 10 ^ scale ≤ x.gridFloor scale * 10 ^ scale :=
      mul_le_mul_of_nonneg_right (Nat.cast_le.2 less) step
    exact ⟨rounds.of_between x.roundsFrom_magnitude order below, nearer_of_le below order⟩

/-- The nearest multiple is nearer than either neighbour. -/
theorem nearer_nearestMultiple (x : Binary64) (scale : Int) :
    x.Nearer (x.nearestMultiple scale * 10 ^ scale) (x.gridFloor scale * 10 ^ scale) ∧
      x.Nearer (x.nearestMultiple scale * 10 ^ scale)
        ((x.gridFloor scale + 1 : Nat) * 10 ^ scale) := by
  have below := x.gridFloor_le scale
  have above := le_of_lt (x.lt_gridFloor_succ scale)
  obtain ⟨low, high⟩ := nearer_of_middle below above
  have width : ((x.gridFloor scale + 1 : Nat) : ℚ) * 10 ^ scale - x.gridFloor scale * 10 ^ scale =
      10 ^ scale := by
    push_cast
    ring
  rw [width] at low high
  unfold nearestMultiple
  split
  next middle => exact ⟨high ((x.middle_le_iff scale).1 middle), Nearer.refl x _⟩
  next middle =>
    exact ⟨Nearer.refl x _, low (lt_of_not_ge fun ge => middle ((x.middle_le_iff scale).2 ge))⟩

theorem nearestMultiple_cases (x : Binary64) (scale : Int) :
    x.nearestMultiple scale = x.gridFloor scale ∨
      x.nearestMultiple scale = x.gridFloor scale + 1 := by
  unfold nearestMultiple
  split
  · exact .inr rfl
  · exact .inl rfl

/-- What is found on a grid is a neighbour of the double that is rounded to it, and none
of the grid that is rounded to it is nearer. -/
theorem onGrid?_spec {digits : Nat} (found : x.onGrid? .up scale = some digits) :
    (digits = x.gridFloor scale ∨ digits = x.gridFloor scale + 1) ∧
      x.RoundsFrom (digits * 10 ^ scale) ∧
      ∀ multiple : Nat, x.RoundsFrom (multiple * 10 ^ scale) →
        x.Nearer (digits * 10 ^ scale) (multiple * 10 ^ scale) := by
  have lower := x.readsBack_iff (x.gridFloor scale) scale
  have upper := x.readsBack_iff (x.gridFloor scale + 1) scale
  rw [onGrid?_eq] at found
  cases low : x.readsBack (x.gridFloor scale) scale with
  | true =>
    have own := lower.1 low
    cases high : x.readsBack (x.gridFloor scale + 1) scale with
    | true =>
      rw [low, high] at found
      cases found
      obtain ⟨nearFloor, nearNext⟩ := nearer_nearestMultiple x scale
      refine ⟨nearestMultiple_cases x scale, ?_, fun multiple rounds => ?_⟩
      · rcases nearestMultiple_cases x scale with same | same
        · rw [same]
          exact own
        · rw [same]
          exact upper.1 high
      · rcases rounds.neighbour with ⟨-, nearer⟩ | ⟨-, nearer⟩
        · exact nearFloor.trans nearer
        · exact nearNext.trans nearer
    | false =>
      rw [low, high] at found
      cases found
      refine ⟨.inl rfl, own, fun multiple rounds => ?_⟩
      rcases rounds.neighbour with ⟨-, nearer⟩ | ⟨next, -⟩
      · exact nearer
      · exact absurd (upper.2 next) (by rw [high]; decide)
  | false =>
    cases high : x.readsBack (x.gridFloor scale + 1) scale with
    | true =>
      rw [low, high] at found
      cases found
      refine ⟨.inr rfl, upper.1 high, fun multiple rounds => ?_⟩
      rcases rounds.neighbour with ⟨floor, -⟩ | ⟨-, nearer⟩
      · exact absurd (lower.2 floor) (by rw [low]; decide)
      · exact nearer
    | false =>
      rw [low, high] at found
      cases found

/-- Where nothing is found nothing of the grid is rounded to the double. -/
theorem not_roundsFrom_of_onGrid? (missing : x.onGrid? .up scale = none) (multiple : Nat) :
    ¬ x.RoundsFrom (multiple * 10 ^ scale) := by
  intro rounds
  rw [onGrid?_eq] at missing
  rcases rounds.neighbour with ⟨floor, -⟩ | ⟨next, -⟩
  · rw [(x.readsBack_iff _ scale).2 floor] at missing
    split at missing <;> simp_all
  · rw [(x.readsBack_iff _ scale).2 next] at missing
    split at missing <;> simp_all

end

/-! ## Few digits and grids -/

/-- So many places below a power of ten, and back. -/
theorem pow_mul_zpow_sub (count : Nat) (e : Int) :
    (10 : ℚ) ^ count * 10 ^ (e - count) = 10 ^ e := by
  rw [← zpow_natCast, ← zpow_add₀ (by norm_num), add_sub_cancel]

theorem pow_succ_mul_zpow_sub (count : Nat) (e : Int) :
    (10 : ℚ) ^ (count + 1) * 10 ^ (e - count) = 10 ^ (e + 1) := by
  rw [pow_succ', mul_assoc, pow_mul_zpow_sub, ← zpow_one_add₀ (by norm_num), add_comm]

section

variable {x : Binary64} {v : ℚ}

/-- A double that is not zero is above a power of ten by its first digit, and is below ten
times as much in steps of a grid. -/
theorem gridFloor_lt (filled : x.significand ≠ 0) (count : Nat) :
    x.gridFloor (x.decimalExponent - count) < 10 ^ (count + 1) := by
  have step : (0 : ℚ) < 10 ^ (x.decimalExponent - count) := zpow_pos (by norm_num) _
  have below := (x.gridFloor_le (x.decimalExponent - count)).trans_lt
    (decimalExponent_bounds filled).2
  rw [← pow_succ_mul_zpow_sub count, mul_lt_mul_iff_left₀ step] at below
  exact_mod_cast below

/-- What is found on a grid has no more digits than the grid. -/
theorem hasDigits_of_onGrid? (filled : x.significand ≠ 0) {count digits : Nat}
    (found : x.onGrid? .up (x.decimalExponent - count) = some digits) :
    HasDigits (count + 1) (digits * 10 ^ (x.decimalExponent - count)) := by
  have few := gridFloor_lt filled count
  obtain ⟨neighbour, -, -⟩ := onGrid?_spec found
  rcases Nat.lt_or_ge digits (10 ^ (count + 1)) with less | ge
  · exact ⟨digits, _, less, rfl⟩
  · -- One followed by zeros has one digit.
    obtain rfl : digits = 10 ^ (count + 1) := by omega
    refine ⟨1, x.decimalExponent + 1, Nat.one_lt_pow (by omega) (by decide), ?_⟩
    rw [Nat.cast_pow, Nat.cast_ofNat, pow_succ_mul_zpow_sub, Nat.cast_one, one_mul]

/-- A value of few digits that is rounded to a double is no nearer than one on the grid of
so many digits that is rounded to it. -/
theorem exists_multiple_of_hasDigits (filled : x.significand ≠ 0) (rounds : x.RoundsFrom v)
    {count : Nat} (has : HasDigits (count + 1) v) :
    ∃ multiple : Nat, x.RoundsFrom (multiple * 10 ^ (x.decimalExponent - count)) ∧
      x.Nearer (multiple * 10 ^ (x.decimalExponent - count)) v := by
  obtain ⟨digits, exponent, few, rfl⟩ := has
  rcases Int.lt_or_le exponent (x.decimalExponent - count) with fine | coarse
  · -- The value is below the power of ten of the first digit, which is below the double.
    have low := (decimalExponent_bounds filled).1
    have first : ((10 ^ count : Nat) : ℚ) * 10 ^ (x.decimalExponent - count) =
        10 ^ x.decimalExponent := by
      rw [Nat.cast_pow, Nat.cast_ofNat, pow_mul_zpow_sub]
    have below : (digits : ℚ) * 10 ^ exponent ≤ 10 ^ x.decimalExponent := by
      have few' : (digits : ℚ) ≤ 10 ^ (count + 1) := by exact_mod_cast Nat.le_of_lt few
      calc (digits : ℚ) * 10 ^ exponent ≤ 10 ^ (count + 1) * 10 ^ exponent :=
            mul_le_mul_of_nonneg_right few' (zpow_nonneg (by norm_num) _)
        _ = 10 ^ ((count + 1 : Nat) + exponent) := by
            rw [zpow_add₀ (by norm_num), zpow_natCast]
        _ ≤ 10 ^ x.decimalExponent := zpow_le_zpow_right₀ (by norm_num) (by omega)
    refine ⟨10 ^ count, ?_, ?_⟩
    · rw [first]
      exact rounds.of_between x.roundsFrom_magnitude below low
    · rw [first]
      exact nearer_of_le low below
  · obtain ⟨multiple, same⟩ := exists_multiple_of_le digits coarse
    rw [same] at rounds ⊢
    exact ⟨multiple, rounds, Nearer.refl x _⟩

/-! ## Seventeen digits -/

/-- The interval of a double is wider than a step of the grid of seventeen digits. -/
theorem step_lt_width (filled : x.significand ≠ 0) :
    (10 : ℚ) ^ (x.decimalExponent - 16) <
      x.highQuarters * (x.unit / 4) - x.lowQuarters * (x.unit / 4) := by
  have positive := x.unit_pos
  have short : (x.significand : ℚ) + 1 ≤ 2 ^ 53 := by exact_mod_cast x.significand_lt
  have total : (10 : ℚ) ^ (x.decimalExponent - 16) * 10 ^ 16 ≤ x.significand * x.unit := by
    rw [← magnitude_eq, mul_comm]
    exact le_of_eq_of_le (pow_mul_zpow_sub 16 _) (decimalExponent_bounds filled).1
  have size := mul_le_mul_of_nonneg_right short (le_of_lt positive)
  rw [cast_highQuarters]
  rcases x.lowQuarters_cases filled with low | ⟨first, -, low⟩
  · rw [low]
    norm_num at total size ⊢
    linarith
  · rw [first] at total
    rw [low, first]
    norm_num at total ⊢
    linarith

/-- A value of seventeen digits is rounded to the double. -/
theorem exists_seventeen (filled : x.significand ≠ 0) :
    ∃ multiple : Nat, x.RoundsFrom (multiple * 10 ^ (x.decimalExponent - 16)) := by
  obtain ⟨low, high⟩ := magnitude_between filled
  have wide := step_lt_width filled
  have below := x.gridFloor_le (x.decimalExponent - 16)
  have above := x.lt_gridFloor_succ (x.decimalExponent - 16)
  rcases lt_or_ge (((x.gridFloor (x.decimalExponent - 16) + 1 : Nat) : ℚ) *
      10 ^ (x.decimalExponent - 16)) (x.highQuarters * (x.unit / 4)) with inside | outside
  · exact ⟨_, roundsFrom_of_strict (low.trans above) inside⟩
  · rw [Nat.cast_succ, add_mul, one_mul] at outside
    exact ⟨_, roundsFrom_of_strict (by linarith) (lt_of_le_of_lt below high)⟩

/-- The first of a range with a result. -/
theorem findSome?_range {β : Type} {f : Nat → Option β} {n : Nat} {b : β}
    (found : (List.range n).findSome? f = some b) :
    ∃ first, f first = some b ∧ ∀ earlier < first, f earlier = none := by
  induction n with
  | zero => cases found
  | succ n ih =>
    rw [List.range_succ, List.findSome?_append, Option.or_eq_some_iff] at found
    rcases found with front | ⟨none, last⟩
    · exact ih front
    · refine ⟨n, ?_, fun earlier less =>
        List.findSome?_eq_none_iff.1 none earlier (List.mem_range.2 less)⟩
      simpa using last

/-- The search ends with the first grid on which something is found. -/
theorem exists_onGrid? (filled : x.significand ≠ 0) :
    ∃ count digits : Nat, x.onGrid? .up (x.decimalExponent - count) = some digits ∧
      (x.shortest .up).toRat = digits * 10 ^ (x.decimalExponent - count) ∧
      ∀ fewer < count, x.onGrid? .up (x.decimalExponent - fewer) = none := by
  have notZero : ¬ x.isZero = true := by
    intro zero
    exact filled (beq_iff_eq.1 zero)
  rw [shortest, if_neg notZero]
  simp only
  cases found : (List.range maxDigits).findSome? fun (count : Nat) =>
      (x.onGrid? .up (x.decimalExponent - count)).map fun digits =>
        Decimal.normalize digits (x.decimalExponent - count) with
  | none =>
    obtain ⟨multiple, rounds⟩ := exists_seventeen filled
    have last := List.findSome?_eq_none_iff.1 found 16 (by decide)
    exact absurd rounds (not_roundsFrom_of_onGrid? (Option.map_eq_none_iff.1 last) multiple)
  | some d =>
    obtain ⟨count, here, before⟩ := findSome?_range found
    obtain ⟨digits, onGrid, rfl⟩ := Option.map_eq_some_iff.1 here
    exact ⟨count, digits, onGrid, Decimal.toRat_normalize _ _,
      fun fewer less => Option.map_eq_none_iff.1 (before fewer less)⟩

/-- What is found is the shortest decimal. -/
theorem isShortest_shortest (x : Binary64) : x.IsShortest (x.shortest .up).toRat := by
  rcases Nat.eq_zero_or_pos x.significand with empty | filled
  · have isZero : x.isZero = true := beq_iff_eq.2 empty
    have zero : (x.shortest .up).toRat = 0 := by
      rw [shortest, if_pos isZero]
      simp [Decimal.toRat]
    have none := (magnitude_eq_zero_iff x).2 isZero
    rw [zero]
    exact isShortest_zero (none ▸ x.roundsFrom_magnitude)
  · obtain ⟨count, digits, found, value, before⟩ := exists_onGrid? (Nat.ne_of_gt filled)
    obtain ⟨-, rounds, nearest⟩ := onGrid?_spec found
    rw [value]
    refine ⟨count + 1, rounds, hasDigits_of_onGrid? (Nat.ne_of_gt filled) found, ?_, ?_⟩
    · intro w roundsToo fewer less has
      cases fewer with
      | zero =>
        rw [hasDigits_zero_iff.1 has] at roundsToo
        exact lt_irrefl 0 (roundsToo.pos (Nat.ne_of_gt filled))
      | succ fewer =>
        obtain ⟨multiple, onGrid, -⟩ :=
          exists_multiple_of_hasDigits (Nat.ne_of_gt filled) roundsToo has
        exact not_roundsFrom_of_onGrid? (before fewer (by omega)) multiple onGrid
    · intro w roundsToo has
      obtain ⟨multiple, onGrid, nearer⟩ :=
        exists_multiple_of_hasDigits (Nat.ne_of_gt filled) roundsToo has
      exact (nearest multiple onGrid).trans nearer

end

end Binary64

end CloudInventory
