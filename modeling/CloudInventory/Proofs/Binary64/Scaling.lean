import CloudInventory.Proofs.Binary64.Rounding

/-!
# Decimal scaling

A decimal becomes a double in up to three roundings: of the significand, of the power of
ten and of the scaled value. Together they move the value by less than four parts in
`2 ^ 53`, or leave next to nothing of a value that is next to nothing itself. A short
significand that ends up whole is scaled exactly.

Results:
1. `Binary64.abs_ofDecimal?_sub_le`: the distance of the double from the decimal.
2. `Binary64.ofDecimal?_of_short`: a significand below `2 ^ 53` that gives a natural
   number of at most `2 ^ 53` gives the very number, or zero.
3. `Binary64.ofDecimal?_of_natural`: such a significand that stands for such a number
   gives it.
-/

namespace CloudInventory

@[simp] theorem cast_tenPow (n : Nat) : ((tenPow n : Nat) : ℚ) = 10 ^ n := by
  show ((10 ^ n : Nat) : ℚ) = 10 ^ n
  exact Nat.cast_pow 10 n

namespace Binary64

/-! ## Next to nothing -/

/-- The bound below which repeated division leaves no trustworthy value. -/
def underflow : ℚ := 1 / 10 ^ 288

theorem underflow_pos : 0 < underflow :=
  div_pos one_pos (pow_pos (by norm_num) _)

theorem underflow_le : underflow ≤ 1 / 10 ^ 100 :=
  one_div_le_one_div_of_le (by positivity) (pow_le_pow_right₀ (by norm_num) (by decide))

/-- Half of the least double is far below the bound. -/
theorem half_least_le_underflow : 1 / 2 ^ 1075 ≤ underflow / 100 := by
  have powers : (10 : ℚ) ^ 290 ≤ 2 ^ 1075 :=
    calc (10 : ℚ) ^ 290 = (10 ^ 3) ^ 96 * 10 ^ 2 := by rw [← pow_mul, ← pow_add]
      _ ≤ (2 ^ 10) ^ 96 * 2 ^ 7 := by gcongr <;> norm_num
      _ = 2 ^ 967 := by rw [← pow_mul, ← pow_add]
      _ ≤ 2 ^ 1075 := pow_le_pow_right₀ (by norm_num) (by decide)
  have hundred : underflow / 100 = 1 / 10 ^ 290 := by
    rw [underflow, div_div, show (290 : Nat) = 288 + 2 from rfl, pow_add]
    norm_num only
  rw [hundred]
  exact one_div_le_one_div_of_le (by positivity) powers

/-- A significand is next to nothing once it is divided by the greatest power of ten. -/
theorem div_maxPower_le_underflow : 2 ^ 66 / 10 ^ maxPower ≤ underflow * (3 / 4) := by
  rw [underflow, maxPower, show (308 : Nat) = 288 + 20 from rfl, pow_add, mul_comm ((10 : ℚ) ^ 288),
    ← div_div, one_div_mul_eq_div]
  exact div_le_div_of_nonneg_right (by norm_num) (by positivity)

/-! ## One rounding, loosely -/

namespace RoundsTo

variable {v k : ℚ}

theorem abs_sub_le (rounded : RoundsTo v k) (nonneg : 0 ≤ v) :
    |k - v| ≤ v / 2 ^ 53 + underflow / 100 := by
  rcases le_total (1 / 2 ^ 1022) v with normal | subnormal
  · have := underflow_pos
    linarith [rounded.normal normal]
  · have := div_nonneg nonneg (by norm_num : (0 : ℚ) ≤ 2 ^ 53)
    have := le_trans (rounded.subnormal subnormal) half_least_le_underflow
    linarith

/-- Values from one upwards are in the normal range. -/
theorem abs_sub_le_of_one_le (rounded : RoundsTo v k) (large : 1 ≤ v) : |k - v| ≤ v / 2 ^ 53 :=
  rounded.normal (le_trans (div_le_one_of_le₀ (one_le_pow₀ (by norm_num)) (by positivity)) large)

theorem eq_zero (rounded : RoundsTo 0 k) : k = 0 :=
  rounded.carried (m := 0) (j := 0) (by decide) (by decide) (by simp)

/-- The natural numbers up to `2 ^ 53` are doubles. -/
theorem eq_natCast {n : Nat} (rounded : RoundsTo n k) (short : n ≤ 2 ^ 53) : k = n := by
  rcases Nat.lt_or_eq_of_le short with below | rfl
  · exact rounded.carried (j := 0) below (by decide) (by simp)
  · exact rounded.carried (m := 2 ^ 52) (j := 1) (by decide) (by decide) (by norm_num)

theorem abs_sub_natCast_le {n : Nat} (rounded : RoundsTo n k) : |k - n| ≤ n / 2 ^ 53 := by
  rcases Nat.eq_zero_or_pos n with rfl | positive
  · have : k = 0 := eq_zero (by simpa using rounded)
    simp [this]
  · exact rounded.abs_sub_le_of_one_le (by exact_mod_cast positive)

/-- Only `2 ^ 53 + 1` is rounded down to a trusted value that it is not. -/
theorem eq_natCast_of_le {n : Nat} (rounded : RoundsTo n k) (bound : k ≤ 2 ^ 53)
    (between : n ≠ 2 ^ 53 + 1) : k = n := by
  rcases Nat.lt_or_ge (2 ^ 53) n with large | short
  · have far : (2 ^ 53 + 2 : ℚ) ≤ n := by
      have : 2 ^ 53 + 2 ≤ n := by omega
      exact_mod_cast this
    have near := abs_le.1 rounded.abs_sub_natCast_le
    exfalso
    linarith [near.1]
  · exact rounded.eq_natCast short

end RoundsTo

/-! ## Powers of ten -/

section

variable {n : Nat} {p : Binary64}

theorem roundsTo_powerOfTen? (made : powerOfTen? n = some p) : RoundsTo (10 ^ n) p.magnitude := by
  have rounded := roundsTo_ofNat? made
  rwa [cast_tenPow] at rounded

theorem abs_powerOfTen?_sub_le (made : powerOfTen? n = some p) :
    |p.magnitude - 10 ^ n| ≤ 10 ^ n / 2 ^ 53 :=
  (roundsTo_powerOfTen? made).abs_sub_le_of_one_le (one_le_pow₀ (by norm_num))

/-- The powers of ten up to the twenty-second are doubles. -/
theorem powerOfTen?_of_short (short : n ≤ 22) (made : powerOfTen? n = some p) :
    p.magnitude = 10 ^ n := by
  have fives : 5 ^ n < 2 ^ 53 :=
    Nat.lt_of_le_of_lt (Nat.pow_le_pow_right (by decide) short) (by decide)
  apply (roundsTo_powerOfTen? made).carried (j := n) fives (by omega)
  rw [zpow_natCast, Nat.cast_pow, ← mul_pow]
  norm_num

/-- A power of ten is rounded by far less than one half of it. -/
theorem half_pow_le_powerOfTen? (made : powerOfTen? n = some p) : 10 ^ n / 2 ≤ p.magnitude := by
  have near := (abs_le.1 (abs_powerOfTen?_sub_le made)).1
  have : (0 : ℚ) < 10 ^ n := by positivity
  linarith

theorem powerOfTen?_pos (made : powerOfTen? n = some p) : 0 < p.magnitude :=
  lt_of_lt_of_le (by positivity) (half_pow_le_powerOfTen? made)

end

/-! ## Scaling down in steps -/

section

variable {x y p : Binary64}

/-- A quotient by two or more stays next to nothing. -/
theorem div?_le_underflow (small : x.magnitude ≤ underflow) (divisor : 2 ≤ p.magnitude)
    (made : x.div? p = some y) : y.magnitude ≤ underflow := by
  have quotient : x.magnitude / p.magnitude ≤ underflow / 2 :=
    div_le_div₀ (le_of_lt underflow_pos) small two_pos divisor
  have nonneg := div_nonneg x.magnitude_nonneg p.magnitude_nonneg
  have near := abs_le.1 ((roundsTo_div? (lt_of_lt_of_le two_pos divisor) made).abs_sub_le nonneg)
  have := underflow_pos
  linarith [near.2]

theorem two_le_powerOfTen? {n : Nat} (positive : 1 ≤ n) (made : powerOfTen? n = some p) :
    2 ≤ p.magnitude := by
  have ten : (10 : ℚ) ^ 1 ≤ 10 ^ n := pow_le_pow_right₀ (by norm_num) positive
  linarith [half_pow_le_powerOfTen? made]

/-- What is next to nothing stays so under all further steps. -/
theorem scaleDownSteps?_le_underflow {last steps : Nat} (positive : 1 ≤ last)
    (small : x.magnitude ≤ underflow) (made : x.scaleDownSteps? last steps = some y) :
    y.magnitude ≤ underflow := by
  induction steps generalizing x with
  | zero =>
    obtain ⟨p, power, quotient⟩ := Option.bind_eq_some_iff.1 made
    exact div?_le_underflow small (two_le_powerOfTen? positive power) quotient
  | succ steps ih =>
    rw [scaleDownSteps?] at made
    split at made
    next =>
      cases made
      exact small
    next =>
      obtain ⟨z, step, rest⟩ := Option.bind_eq_some_iff.1 made
      obtain ⟨p, power, quotient⟩ := Option.bind_eq_some_iff.1 step
      exact ih (div?_le_underflow small (two_le_powerOfTen? (by decide) power) quotient) rest

/-- One division by the greatest power leaves next to nothing of a word. -/
theorem div?_maxPower_le_underflow (word : x.magnitude ≤ 2 ^ 65)
    (power : powerOfTen? maxPower = some p) (made : x.div? p = some y) :
    y.magnitude ≤ underflow := by
  have quotient : x.magnitude / p.magnitude ≤ underflow * (3 / 4) := by
    have halves : x.magnitude / p.magnitude ≤ 2 ^ 65 / (10 ^ maxPower / 2) :=
      div_le_div₀ (by positivity) word (by positivity) (half_pow_le_powerOfTen? power)
    have same : (2 : ℚ) ^ 65 / (10 ^ maxPower / 2) = 2 ^ 66 / 10 ^ maxPower := by
      rw [div_div_eq_mul_div, ← pow_succ]
    rw [same] at halves
    exact le_trans halves div_maxPower_le_underflow
  have nonneg := div_nonneg x.magnitude_nonneg p.magnitude_nonneg
  have near := abs_le.1 ((roundsTo_div? (powerOfTen?_pos power) made).abs_sub_le nonneg)
  have := underflow_pos
  linarith [near.2]

/-- A division by `10 ^ n` is one division, or leaves next to nothing of a word and
nothing of nothing. -/
theorem scaleDown?_cases {n : Nat} (positive : 1 ≤ n) (word : x.magnitude ≤ 2 ^ 65)
    (made : x.scaleDown? n = some y) :
    (n ≤ maxPower ∧ ∃ p, powerOfTen? n = some p ∧ x.div? p = some y) ∨
      (maxPower < n ∧ y.magnitude ≤ underflow ∧ (x.magnitude = 0 → y.magnitude = 0)) := by
  rw [scaleDown?] at made
  have last : 1 ≤ n - (n - 1) / maxPower * maxPower := by
    have := Nat.div_mul_le_self (n - 1) maxPower
    omega
  cases steps : (n - 1) / maxPower with
  | zero =>
    rw [steps] at made
    obtain ⟨p, power, quotient⟩ := Option.bind_eq_some_iff.1 made
    rw [Nat.zero_mul, Nat.sub_zero] at power
    have short : n - 1 < maxPower := (Nat.div_eq_zero_iff_lt (by decide)).1 steps
    exact .inl ⟨by omega, p, power, quotient⟩
  | succ more =>
    rw [steps] at made last
    have long : maxPower < n := by
      have := Nat.div_mul_le_self (n - 1) maxPower
      rw [steps, Nat.succ_mul] at this
      omega
    refine .inr ⟨long, ?_⟩
    simp only [scaleDownSteps?] at made
    split at made
    next empty =>
      cases made
      have none := (magnitude_eq_zero_iff x).2 empty
      exact ⟨le_of_eq_of_le none (le_of_lt underflow_pos), id⟩
    next filled =>
      obtain ⟨z, step, rest⟩ := Option.bind_eq_some_iff.1 made
      obtain ⟨p, power, quotient⟩ := Option.bind_eq_some_iff.1 step
      have small := div?_maxPower_le_underflow word power quotient
      exact ⟨scaleDownSteps?_le_underflow last small rest,
        fun empty => absurd ((magnitude_eq_zero_iff x).1 empty) filled⟩

/-- A multiplication by `10 ^ n` is one multiplication, unless there is nothing to
multiply. -/
theorem scaleUp?_cases {n : Nat} (made : x.scaleUp? n = some y) :
    (∃ p, powerOfTen? n = some p ∧ x.mul? p = some y) ∨ (x.magnitude = 0 ∧ y.magnitude = 0) := by
  rw [scaleUp?] at made
  split at made
  next => exact .inl (Option.bind_eq_some_iff.1 made)
  next =>
    split at made
    next empty =>
      cases made
      exact .inr ⟨(magnitude_eq_zero_iff x).2 empty, (magnitude_eq_zero_iff x).2 empty⟩
    next => cases made

end

/-! ## Decimals -/

/-- Three roundings in a row: of a value, of a factor and of the product. -/
theorem abs_scaled_sub_le {value factor k v f slack : ℚ} (value_nonneg : 0 ≤ value)
    (factor_nonneg : 0 ≤ factor) (first : |v - value| ≤ value / 2 ^ 53)
    (second : |f - factor| ≤ factor * (5 / 2 ^ 55)) (third : |k - v * f| ≤ v * f / 2 ^ 53 + slack) :
    |k - value * factor| ≤ value * factor * (7 / 2 ^ 54) + slack := by
  obtain ⟨first_above, first_below⟩ := abs_le.1 first
  obtain ⟨second_above, second_below⟩ := abs_le.1 second
  obtain ⟨third_above, third_below⟩ := abs_le.1 third
  have product_nonneg := mul_nonneg value_nonneg factor_nonneg
  have above : value * (1 - 1 / 2 ^ 53) * (factor * (1 - 5 / 2 ^ 55)) ≤ v * f :=
    mul_le_mul (by linarith) (by linarith) (by positivity) (by linarith)
  have below : v * f ≤ value * (1 + 1 / 2 ^ 53) * (factor * (1 + 5 / 2 ^ 55)) :=
    mul_le_mul (by linarith) (by linarith) (by linarith) (by positivity)
  rw [mul_mul_mul_comm] at above below
  generalize value * factor = product at *
  rw [abs_le]
  constructor <;> linarith

/-- The reciprocal of a power of ten is off by little more than the power itself. -/
theorem abs_powerOfTen?_inv_sub_le {n : Nat} {p : Binary64} (made : powerOfTen? n = some p) :
    |1 / p.magnitude - 1 / 10 ^ n| ≤ 1 / 10 ^ n * (5 / 2 ^ 55) := by
  obtain ⟨above, below⟩ := abs_le.1 (abs_powerOfTen?_sub_le made)
  have power : (0 : ℚ) < 10 ^ n := by positivity
  have positive := powerOfTen?_pos made
  have difference : 1 / p.magnitude - 1 / 10 ^ n =
      (10 ^ n - p.magnitude) / p.magnitude * (1 / 10 ^ n) := by
    field_simp
  rw [difference, abs_mul, abs_of_pos (one_div_pos.2 power), mul_comm, abs_div, abs_of_pos positive]
  refine mul_le_mul_of_nonneg_left ?_ (le_of_lt (one_div_pos.2 power))
  rw [div_le_iff₀ positive, abs_le]
  constructor <;> linarith

section

variable {significand : Nat} {exponent : Int} {x : Binary64}

/-- A decimal is a rounded product or a rounded quotient of two rounded parts, or both the
decimal and its double are next to nothing. Nothing stays nothing. -/
theorem ofDecimal?_cases (word : significand < 2 ^ 64)
    (made : ofDecimal? significand exponent = some x) :
    ∃ whole, ofNat? significand = some whole ∧
      ((∃ (n : Nat) (p : Binary64), exponent = n ∧ powerOfTen? n = some p ∧
          RoundsTo (whole.magnitude * p.magnitude) x.magnitude) ∨
        (∃ (n : Nat) (p : Binary64), exponent = -n ∧ powerOfTen? n = some p ∧
          RoundsTo (whole.magnitude / p.magnitude) x.magnitude) ∨
        (significand * 10 ^ exponent ≤ underflow ∧ x.magnitude ≤ underflow ∧
          (significand = 0 → x.magnitude = 0))) := by
  obtain ⟨whole, rounded, scaled⟩ := Option.bind_eq_some_iff.1 made
  refine ⟨whole, rounded, ?_⟩
  obtain ⟨near_above, near_below⟩ := abs_le.1 (roundsTo_ofNat? rounded).abs_sub_natCast_le
  have word' : (significand : ℚ) < 2 ^ 64 := by exact_mod_cast word
  split at scaled
  next down =>
    obtain ⟨n, size⟩ := Int.eq_ofNat_of_zero_le (a := -exponent) (by omega)
    obtain rfl : exponent = -n := by omega
    rw [Int.natAbs_neg, Int.natAbs_natCast] at scaled
    rcases scaleDown?_cases (by omega) (by linarith) scaled with
      ⟨-, p, power, quotient⟩ | ⟨long, nothing, stays⟩
    · exact .inr (.inl ⟨n, p, rfl, power, roundsTo_div? (powerOfTen?_pos power) quotient⟩)
    · refine .inr (.inr ⟨?_, nothing, ?_⟩)
      · have power : (10 : ℚ) ^ maxPower ≤ 10 ^ n := pow_le_pow_right₀ (by norm_num) (by omega)
        have small : (significand : ℚ) / 10 ^ n ≤ 2 ^ 66 / 10 ^ maxPower :=
          div_le_div₀ (by positivity) (by linarith) (by positivity) power
        rw [zpow_neg, zpow_natCast, ← div_eq_mul_inv]
        have := underflow_pos
        linarith [div_maxPower_le_underflow]
      · rintro rfl
        rw [(roundsTo_ofNat? rounded).eq_natCast (Nat.zero_le _), Nat.cast_zero] at stays
        exact stays rfl
  next up =>
    obtain ⟨n, rfl⟩ := Int.eq_ofNat_of_zero_le (Int.not_lt.1 up)
    rcases scaleUp?_cases scaled with ⟨p, power, product⟩ | ⟨empty, same⟩
    · exact .inl ⟨n, p, rfl, power, roundsTo_mul? product⟩
    · refine .inr (.inr ⟨?_, le_of_eq_of_le same (le_of_lt underflow_pos), fun _ => same⟩)
      have none : (significand : ℚ) = 0 := by
        rw [empty] at near_above
        have := Nat.cast_nonneg (α := ℚ) significand
        linarith
      rw [none, zero_mul]
      exact le_of_lt underflow_pos

/-- The double of a decimal lies close to it. -/
theorem abs_ofDecimal?_sub_le (word : significand < 2 ^ 64)
    (made : ofDecimal? significand exponent = some x) :
    |x.magnitude - significand * 10 ^ exponent| ≤
      significand * 10 ^ exponent * (7 / 2 ^ 54) + underflow := by
  obtain ⟨whole, rounded, scaled⟩ := ofDecimal?_cases word made
  have first := (roundsTo_ofNat? rounded).abs_sub_natCast_le
  have tiny := underflow_pos
  have value_nonneg : (0 : ℚ) ≤ significand * 10 ^ exponent := by positivity
  rcases scaled with
    ⟨n, p, rfl, power, product⟩ | ⟨n, p, rfl, power, quotient⟩ | ⟨small, nothing, -⟩
  · have second := abs_powerOfTen?_sub_le power
    have third := product.abs_sub_le (mul_nonneg whole.magnitude_nonneg p.magnitude_nonneg)
    have factor : (0 : ℚ) < 10 ^ n := by positivity
    rw [zpow_natCast]
    have := abs_scaled_sub_le (by positivity) (le_of_lt factor) first (by linarith) third
    linarith
  · have second := abs_powerOfTen?_inv_sub_le power
    have third := quotient.abs_sub_le (div_nonneg whole.magnitude_nonneg p.magnitude_nonneg)
    rw [zpow_neg, zpow_natCast, inv_eq_one_div]
    rw [div_eq_mul_one_div whole.magnitude] at third
    have := abs_scaled_sub_le (by positivity) (by positivity) first second third
    linarith
  · have := x.magnitude_nonneg
    rw [abs_le]
    constructor <;> linarith

/-- A multiple of ten is not one more than `2 ^ 53`. -/
theorem mul_pow_ne {n : Nat} (short : significand < 2 ^ 53) :
    significand * 10 ^ n ≠ 2 ^ 53 + 1 := by
  cases n with
  | zero => omega
  | succ n =>
    rw [Nat.pow_succ, ← Nat.mul_assoc]
    omega

/-- A short significand times a power of ten leaves the trusted range or is exact. -/
theorem product_of_short {n : Nat} {p : Binary64} {k : ℚ} (short : significand < 2 ^ 53)
    (trusted : k ≤ 2 ^ 53) (power : powerOfTen? n = some p)
    (product : RoundsTo (significand * p.magnitude) k) : k = significand * 10 ^ n := by
  by_cases few : n ≤ 22
  · rw [powerOfTen?_of_short few power] at product
    have product' : RoundsTo (significand * 10 ^ n : Nat) k := by
      push_cast
      exact product
    rw [product'.eq_natCast_of_le trusted (mul_pow_ne short)]
    push_cast
    rfl
  · rcases Nat.eq_zero_or_pos significand with rfl | positive
    · rw [Nat.cast_zero, zero_mul] at product ⊢
      exact product.eq_zero
    · have far : (10 : ℚ) ^ 23 ≤ 10 ^ n := pow_le_pow_right₀ (by norm_num) (by omega)
      have half := half_pow_le_powerOfTen? power
      have one_le : (1 : ℚ) ≤ significand := by exact_mod_cast positive
      have large : (10 : ℚ) ^ 23 / 2 ≤ significand * p.magnitude := by
        have := le_mul_of_one_le_left p.magnitude_nonneg one_le
        linarith
      have near := abs_le.1 (product.abs_sub_le_of_one_le (by linarith))
      linarith [near.1]

/-- A short significand over a power of ten that is rounded to a natural number is exact,
or the number is zero. -/
theorem quotient_of_short {n value : Nat} {p : Binary64} (short : significand < 2 ^ 53)
    (power : powerOfTen? n = some p) (quotient : RoundsTo (significand / p.magnitude) value) :
    (value : ℚ) = significand / 10 ^ n ∨ value = 0 := by
  have short' : (significand : ℚ) + 1 ≤ 2 ^ 53 := by exact_mod_cast short
  have near := quotient.abs_sub_le (div_nonneg (Nat.cast_nonneg _) p.magnitude_nonneg)
  have tiny := underflow_le
  by_cases few : n ≤ 22
  · -- Multiplied by the power, the distance is below one.
    left
    rw [powerOfTen?_of_short few power] at near
    have factor : (0 : ℚ) < 10 ^ n := by positivity
    have bound : (10 : ℚ) ^ n ≤ 10 ^ 22 := pow_le_pow_right₀ (by norm_num) few
    have scaled : |((value * 10 ^ n : Nat) : ℚ) - significand| < 1 := by
      have distance : ((value * 10 ^ n : Nat) : ℚ) - significand =
          (value - significand / 10 ^ n) * 10 ^ n := by
        push_cast
        field_simp
      have widened := mul_le_mul_of_nonneg_right near (le_of_lt factor)
      rw [add_mul, div_right_comm, div_mul_cancel₀ _ (ne_of_gt factor)] at widened
      have slack : underflow / 100 * 10 ^ n ≤ 1 / 10 ^ 100 / 100 * 10 ^ 22 :=
        mul_le_mul (by linarith) bound (le_of_lt factor) (by positivity)
      rw [distance, abs_mul, abs_of_pos factor]
      linarith
    rw [← natCast_eq_of_abs_sub_lt_one scaled]
    push_cast
    field_simp
  · -- The quotient is below one half.
    right
    have far : (10 : ℚ) ^ 23 ≤ 10 ^ n := pow_le_pow_right₀ (by norm_num) (by omega)
    have half := half_pow_le_powerOfTen? power
    have small : significand / p.magnitude ≤ 2 ^ 53 / (10 ^ 23 / 2) :=
      div_le_div₀ (by positivity) (by linarith) (by positivity) (by linarith)
    have below : (value : ℚ) < 1 := by linarith [(abs_le.1 near).2]
    exact Nat.lt_one_iff.1 (by exact_mod_cast below)

/-- A short significand that is scaled to a trusted natural number is scaled to the very
number that is written, or to nothing. -/
theorem ofDecimal?_of_short {value : Nat} (short : significand < 2 ^ 53) (trusted : value ≤ 2 ^ 53)
    (made : ofDecimal? significand exponent = some x) (whole : x.magnitude = value) :
    x.magnitude = significand * 10 ^ exponent ∨ x.magnitude = 0 := by
  obtain ⟨y, rounded, scaled⟩ := ofDecimal?_cases (by omega) made
  rw [(roundsTo_ofNat? rounded).eq_natCast (Nat.le_of_lt short)] at scaled
  have trusted' : x.magnitude ≤ 2 ^ 53 := by
    rw [whole]
    exact_mod_cast trusted
  rcases scaled with ⟨n, p, rfl, power, product⟩ | ⟨n, p, rfl, power, quotient⟩ |
    ⟨small, nothing, -⟩
  · rw [zpow_natCast]
    exact .inl (product_of_short short trusted' power product)
  · rw [whole] at quotient ⊢
    rw [zpow_neg, zpow_natCast, ← div_eq_mul_inv]
    exact_mod_cast quotient_of_short short power quotient
  · have below : (value : ℚ) < 1 := by
      rw [← whole]
      linarith [underflow_le]
    have none : value = 0 := Nat.lt_one_iff.1 (by exact_mod_cast below)
    right
    rw [whole, none, Nat.cast_zero]

/-- A power of ten that a number of at most `2 ^ 53` has as a factor is a double. -/
theorem powerOfTen?_of_mul_le {a n : Nat} {p : Binary64} (positive : 0 < a)
    (small : a * 10 ^ n ≤ 2 ^ 53) (power : powerOfTen? n = some p) : p.magnitude = 10 ^ n := by
  refine powerOfTen?_of_short ?_ power
  by_contra long
  have far : 10 ^ 23 ≤ 10 ^ n := Nat.pow_le_pow_right (by decide) (by omega)
  have factor : 10 ^ n ≤ a * 10 ^ n := Nat.le_mul_of_pos_left _ positive
  omega

/-- Nothing is scaled to nothing. -/
theorem ofDecimal?_zero (made : ofDecimal? 0 exponent = some x) : x.magnitude = 0 := by
  obtain ⟨y, rounded, scaled⟩ := ofDecimal?_cases (by decide) made
  rw [(roundsTo_ofNat? rounded).eq_natCast (Nat.zero_le _), Nat.cast_zero] at scaled
  rcases scaled with ⟨n, p, rfl, power, product⟩ | ⟨n, p, rfl, power, quotient⟩ | ⟨-, -, stays⟩
  · rw [zero_mul] at product
    exact product.eq_zero
  · rw [zero_div] at quotient
    exact quotient.eq_zero
  · exact stays rfl

/-- A short significand that stands for a small natural number is scaled to it. -/
theorem ofDecimal?_of_natural {value : Nat} (short : significand < 2 ^ 53)
    (small : value ≤ 2 ^ 53) (written : (significand : ℚ) * 10 ^ exponent = value)
    (made : ofDecimal? significand exponent = some x) : x.magnitude = value := by
  rcases Nat.eq_zero_or_pos significand with rfl | positive
  · rw [ofDecimal?_zero made, ← written, Nat.cast_zero, zero_mul]
  have filled : (0 : ℚ) < significand * 10 ^ exponent :=
    mul_pos (Nat.cast_pos.2 positive) (zpow_pos (by norm_num) _)
  rw [written] at filled
  have value_pos : 0 < value := Nat.cast_pos.1 filled
  obtain ⟨y, rounded, scaled⟩ := ofDecimal?_cases (by omega) made
  rw [(roundsTo_ofNat? rounded).eq_natCast (Nat.le_of_lt short)] at scaled
  rcases scaled with ⟨n, p, rfl, power, product⟩ | ⟨n, p, rfl, power, quotient⟩ | ⟨tiny, -, -⟩
  · rw [zpow_natCast] at written
    have product' : significand * 10 ^ n = value := by exact_mod_cast written
    rw [powerOfTen?_of_mul_le positive (by omega) power, written] at product
    exact product.eq_natCast small
  · rw [zpow_neg, zpow_natCast, ← div_eq_mul_inv, div_eq_iff (by positivity)] at written
    have product : significand = value * 10 ^ n := by exact_mod_cast written
    rw [powerOfTen?_of_mul_le value_pos (by omega) power, written,
      mul_div_cancel_right₀ _ (by positivity)] at quotient
    exact quotient.eq_natCast small
  · have one_le : (1 : ℚ) ≤ value := by exact_mod_cast value_pos
    rw [written] at tiny
    have := underflow_le
    exfalso
    linarith

end

end Binary64

end CloudInventory
