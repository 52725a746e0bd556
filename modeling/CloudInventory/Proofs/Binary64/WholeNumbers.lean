import CloudInventory.Proofs.Json.PlainText

/-!
# Doubles of whole numbers

Every integer up to `2 ^ 53` in size is a double, and the double is shown by the digits of
the integer. Other decimals are rounded to the double as well, but none of them has fewer
digits: those with a fraction have more, and those without are the number itself, but for
the neighbours of `2 ^ 53`, which are as long.

Results:
1. `Binary64.exists_toRat_eq`: every such integer is a double.
2. `Binary64.isShortest_natural`: the number is the shortest decimal of its double.
3. `Binary64.plainText_of_whole`: its text is that of the integer.
-/

namespace CloudInventory

namespace Binary64

/-! ## Integers as doubles -/

/-- Every natural number up to `2 ^ 53` is a double. -/
theorem exists_magnitude_eq {n : Nat} (small : n ≤ 2 ^ 53) :
    ∃ x : Binary64, x.magnitude = n := by
  rcases Nat.eq_zero_or_pos n with rfl | positive
  · exact ⟨zero false, by rw [magnitude_zero, Nat.cast_zero]⟩
  rcases Nat.lt_or_eq_of_le small with below | rfl
  · -- The number is shifted until its first bit is the one of the significand.
    have low : 2 ^ n.log2 ≤ n := Nat.log2_self_le (Nat.ne_of_gt positive)
    have high : n < 2 ^ (n.log2 + 1) := Nat.lt_log2_self
    have first : n.log2 ≤ 52 := by
      have := (Nat.pow_lt_pow_iff_right (by decide)).1 (Nat.lt_of_le_of_lt low below)
      omega
    have lower : 2 ^ 52 ≤ n * 2 ^ (52 - n.log2) :=
      calc 2 ^ 52 = 2 ^ n.log2 * 2 ^ (52 - n.log2) := by
            rw [← Nat.pow_add, Nat.add_sub_cancel' first]
        _ ≤ n * 2 ^ (52 - n.log2) := Nat.mul_le_mul_right _ low
    have upper : n * 2 ^ (52 - n.log2) < 2 ^ 53 :=
      calc n * 2 ^ (52 - n.log2) < 2 ^ (n.log2 + 1) * 2 ^ (52 - n.log2) :=
            Nat.mul_lt_mul_of_pos_right high (Nat.two_pow_pos _)
        _ = 2 ^ 53 := by
            rw [← Nat.pow_add]
            congr 1
            omega
    refine ⟨⟨false, n * 2 ^ (52 - n.log2), -(52 - n.log2 : Nat), upper, by omega, by omega,
      .inr lower⟩, ?_⟩
    rw [magnitude, zpow_neg, zpow_natCast]
    push_cast
    field_simp
  · exact ⟨⟨false, 2 ^ 52, 1, by decide, by decide, by decide, by decide⟩, by norm_num [magnitude]⟩

/-- Every integer up to `2 ^ 53` in size is a double, zero the positive one. -/
theorem exists_toRat_eq {n : Int} (small : n.natAbs ≤ 2 ^ 53) :
    ∃ x : Binary64, x.toRat = n ∧ (n = 0 → x.negative = false) := by
  obtain ⟨x, size⟩ := exists_magnitude_eq small
  refine ⟨x.withSign (decide (n < 0)), ?_, ?_⟩
  · have value : (x.withSign (decide (n < 0))).toRat =
        if decide (n < 0) then -x.magnitude else x.magnitude := rfl
    rw [value, size, ← Int.cast_natCast, ← Int.cast_neg]
    simp only [decide_eq_true_eq]
    split
    · congr 1
      omega
    · congr 1
      omega
  · rintro rfl
    rfl

/-- The sign of a double is that of the integer, if zero has none. -/
theorem negative_of_whole {x : Binary64} {n : Int} (whole : x.toRat = n)
    (zero : n = 0 → x.negative = false) : x.negative = decide (n < 0) := by
  have nonneg := x.magnitude_nonneg
  rcases Int.lt_trichotomy n 0 with below | none | above
  · rw [decide_eq_true below]
    by_contra positive
    rw [toRat, if_neg positive] at whole
    rw [whole] at nonneg
    exact absurd (by exact_mod_cast nonneg) (Int.not_le.2 below)
  · rw [zero none, none]
    rfl
  · rw [decide_eq_false (by omega), Bool.eq_false_iff]
    intro negative
    rw [toRat, if_pos negative] at whole
    have : (n : ℚ) ≤ 0 := by
      rw [← whole]
      exact neg_nonpos.2 nonneg
    exact absurd (by exact_mod_cast this) (Int.not_le.2 above)

/-! ## The shortest decimal -/

section

variable {x : Binary64} {w : ℚ} {n count : Nat}

/-- The unit of the double of a natural number is a small part of it. -/
theorem unit_le_of_natural (size : x.magnitude = n) (positive : 0 < n) :
    x.unit ≤ n / 2 ^ 52 := by
  have one_le : (1 : ℚ) ≤ n := by exact_mod_cast positive
  rcases x.normal with least | normal
  · have tiny : x.unit ≤ 1 / 2 ^ 52 :=
      calc x.unit ≤ 2 ^ (-52 : Int) := zpow_le_zpow_right₀ (by norm_num) (by omega)
        _ = 1 / 2 ^ 52 := by norm_num
    exact tiny.trans (div_le_div_of_nonneg_right one_le (by positivity))
  · have normal' : (2 ^ 52 : ℚ) ≤ x.significand := by exact_mod_cast normal
    have product := mul_le_mul_of_nonneg_right normal' (le_of_lt x.unit_pos)
    rw [← magnitude_eq, size] at product
    rw [le_div_iff₀ (by positivity), mul_comm]
    exact product

/-- A decimal that is not whole has more digits than its whole part. -/
theorem lt_count_of_fraction {digits places : Nat} {exponent : Int} (fraction : exponent < 0)
    (few : digits < 10 ^ count) (large : (10 : ℚ) ^ places < digits * 10 ^ exponent) :
    places + 1 < count := by
  have tenth : (10 : ℚ) ^ exponent ≤ 10 ^ (-1 : Int) := zpow_le_zpow_right₀ (by norm_num) (by omega)
  have bound : (digits : ℚ) * 10 ^ exponent ≤ digits * 10 ^ (-1 : Int) :=
    mul_le_mul_of_nonneg_left tenth (Nat.cast_nonneg _)
  have many : (10 : ℚ) ^ (places + 1) < digits := by
    rw [pow_succ]
    norm_num at bound
    linarith
  have many' : 10 ^ (places + 1) < digits := by exact_mod_cast many
  exact (Nat.pow_lt_pow_iff_right (by decide)).1 (Nat.lt_trans many' few)

/-- A decimal near a natural number is that number, or it has at least as many digits. -/
theorem hasDigits_of_near (positive : 0 < n) (near : |w - n| < 1) (above : 0 < w)
    (has : HasDigits count w) : HasDigits count n := by
  obtain ⟨digits, exponent, few, rfl⟩ := has
  rcases Int.le_total 0 exponent with whole | fraction
  · obtain ⟨multiple, same⟩ := exists_multiple_of_le digits whole
    rw [zpow_zero, mul_one] at same
    rw [same] at near
    exact ⟨digits, exponent, few, by rw [same, natCast_eq_of_abs_sub_lt_one near]⟩
  rcases Int.lt_or_eq_of_le fraction with fraction | zero
  · have filled : 1 ≤ count := by
      by_contra none
      obtain rfl : count = 0 := by omega
      obtain rfl : digits = 0 := by omega
      rw [Nat.cast_zero, zero_mul] at above
      exact lt_irrefl 0 above
    obtain ⟨places, -, low, high⟩ := exists_length_numeral positive
    rcases Nat.lt_or_eq_of_le low with less | power
    · have step : (10 ^ places + 1 : ℚ) ≤ n := by exact_mod_cast less
      have large : (10 : ℚ) ^ places < digits * 10 ^ exponent := by
        linarith [(abs_lt.1 near).1]
      have long := lt_count_of_fraction fraction few large
      exact HasDigits.mono ⟨n, 0, high, by rw [zpow_zero, mul_one]⟩ (Nat.le_of_lt long)
    · refine HasDigits.mono ⟨1, places, by decide, ?_⟩ filled
      rw [← power, Nat.cast_one, one_mul, zpow_natCast]
      push_cast
      rfl
  · rw [zero, zpow_zero, mul_one] at near
    exact ⟨n, 0, natCast_eq_of_abs_sub_lt_one near ▸ few, by rw [zpow_zero, mul_one]⟩

/-- The neighbours of `2 ^ 53` have as many digits as it has. -/
theorem hasDigits_of_near_greatest (near : |w - (2 ^ 53 : Nat)| ≤ 1) (has : HasDigits count w) :
    HasDigits count (2 ^ 53 : Nat) := by
  obtain ⟨digits, exponent, few, rfl⟩ := has
  obtain ⟨low, high⟩ := abs_le.1 near
  push_cast at low high
  have long : 16 ≤ count := by
    rcases lt_trichotomy exponent 0 with fraction | zero | whole
    · have large : (10 : ℚ) ^ 15 < digits * 10 ^ exponent := by linarith
      exact Nat.le_of_lt (lt_count_of_fraction fraction few large)
    · rw [zero, zpow_zero, mul_one] at low
      have many : 10 ^ 15 < digits := by
        have : (10 ^ 15 : ℚ) < digits := by linarith
        exact_mod_cast this
      exact (Nat.pow_lt_pow_iff_right (by decide)).1 (Nat.lt_trans many few)
    · -- None of the three ends with a zero.
      obtain ⟨tens, same⟩ := exists_multiple_of_le digits (show 1 ≤ exponent from whole)
      rw [same, zpow_one] at low high
      have below : 2 ^ 53 ≤ tens * 10 + 1 := by
        have : (2 ^ 53 : ℚ) ≤ tens * 10 + 1 := by linarith
        exact_mod_cast this
      have above : tens * 10 ≤ 2 ^ 53 + 1 := by
        have : (tens * 10 : ℚ) ≤ 2 ^ 53 + 1 := by linarith
        exact_mod_cast this
      omega
  exact HasDigits.mono ⟨2 ^ 53, 0, by decide, by rw [zpow_zero, mul_one]⟩ long

/-- A natural number up to `2 ^ 53` is the shortest decimal of its double. -/
theorem isShortest_natural (size : x.magnitude = n) (small : n ≤ 2 ^ 53) : x.IsShortest n := by
  classical
  have rounds := x.roundsFrom_magnitude
  rw [size] at rounds
  rcases Nat.eq_zero_or_pos n with rfl | positive
  · rw [Nat.cast_zero] at rounds ⊢
    exact isShortest_zero rounds
  have filled : x.significand ≠ 0 := by
    intro none
    have : x.isZero = true := beq_iff_eq.2 none
    rw [← magnitude_eq_zero_iff, size] at this
    exact absurd (Nat.cast_eq_zero.1 this) (Nat.ne_of_gt positive)
  have fewest (w : ℚ) (count : Nat) (roundsToo : x.RoundsFrom w) (has : HasDigits count w) :
      HasDigits count n := by
    have near := roundsToo.abs_sub_magnitude_le
    have unit := unit_le_of_natural size positive
    rw [size] at near
    rcases Nat.lt_or_eq_of_le small with below | rfl
    · refine hasDigits_of_near positive (lt_of_le_of_lt near ?_) (roundsToo.pos filled) has
      have below' : (n : ℚ) < 2 ^ 53 := by exact_mod_cast below
      linarith
    · refine hasDigits_of_near_greatest (near.trans ?_) has
      push_cast at unit
      linarith
  have some : ∃ count, HasDigits count (n : ℚ) := by
    obtain ⟨places, -, -, high⟩ := exists_length_numeral positive
    exact ⟨places + 1, n, 0, high, by rw [zpow_zero, mul_one]⟩
  refine ⟨Nat.find some, rounds, Nat.find_spec some,
    fun w roundsToo fewer less has => Nat.find_min some less (fewest w fewer roundsToo has),
    fun w _ _ => ?_⟩
  rw [Nearer, size, sub_self, abs_zero]
  rcases eq_or_ne w n with rfl | different
  · exact .inr ⟨by rw [sub_self, abs_zero], le_rfl⟩
  · exact .inl (abs_pos.2 (sub_ne_zero.2 different))

end

end Binary64

/-! ## The text -/

namespace Decimal

/-- No zero ends the digits, other than that of zero itself. -/
def Trimmed (d : Decimal) : Prop :=
  d.digits % 10 = 0 → d.digits = 0

theorem trimmed_normalize (digits : Nat) (exponent : Int) :
    (normalize digits exponent).Trimmed := by
  fun_induction normalize digits exponent with
  | case1 digits exponent divides ih => exact ih
  | case2 digits exponent stays =>
    intro divides
    exact Nat.eq_zero_of_not_pos fun positive => stays ⟨positive, divides⟩

/-- Without zeros at the end the digits of a whole number are all in front of the point. -/
theorem Trimmed.exponent_nonneg {d : Decimal} {n : Nat} (trimmed : d.Trimmed)
    (filled : d.digits ≠ 0) (value : d.toRat = n) : 0 ≤ d.exponent := by
  by_contra fraction
  obtain ⟨places, same⟩ := Int.exists_eq_neg_ofNat (show d.exponent ≤ 0 by omega)
  obtain ⟨rest, rfl⟩ := Nat.exists_eq_succ_of_ne_zero (show places ≠ 0 by omega)
  have tens : d.digits = n * 10 ^ rest * 10 := by
    rw [toRat, same, zpow_neg, zpow_natCast, mul_inv_eq_iff_eq_mul₀ (by positivity)] at value
    rw [Nat.mul_assoc, ← Nat.pow_succ]
    exact_mod_cast value
  exact filled (trimmed (by rw [tens, Nat.mul_mod_left]))

/-- A whole number is shown by its digits. -/
theorem Trimmed.plain_eq {d : Decimal} {n : Nat} (trimmed : d.Trimmed) (value : d.toRat = n) :
    d.plain = Text.numeral n := by
  by_cases empty : d.digits = 0
  · rw [toRat, empty, Nat.cast_zero, zero_mul] at value
    rw [plain, if_pos empty, Nat.cast_eq_zero.1 value.symm]
    rfl
  · have whole := trimmed.exponent_nonneg empty value
    have filled := Text.numeral_ne_nil d.digits
    have length := List.length_pos_iff.2 filled
    have places : d.wholeDigits.toNat = (Text.numeral d.digits).length + d.exponent.toNat := by
      rw [wholeDigits]
      omega
    have notZero : (Text.numeral d.digits).head? ≠ some '0' :=
      mt (Text.head?_numeral_eq_zero_iff _).1 empty
    have shown : d.plain = Text.numeral d.digits ++ List.replicate d.exponent.toNat '0' := by
      have positive : ¬ d.wholeDigits ≤ 0 := by
        rw [wholeDigits]
        omega
      rw [plain, if_neg empty, pointed, if_neg positive]
      simp only [places]
      rw [if_pos (Nat.le_add_right _ _), Nat.add_sub_cancel_left]
      exact List.append_nil _
    have digits : Text.digitsValue d.plain = n := by
      rw [shown, Text.digitsValue_append_zeros, Text.digitsValue_numeral]
      rw [toRat, ← Int.toNat_of_nonneg whole, zpow_natCast] at value
      exact_mod_cast value
    rw [← digits]
    refine (Text.numeral_digitsValue ?_ ?_ ?_).symm
    · rw [shown]
      exact List.append_ne_nil_of_left_ne_nil filled _
    · rw [shown]
      exact List.forall_mem_append.2 ⟨Text.isDigit_of_mem_numeral,
        fun c member => (List.mem_replicate.1 member).2 ▸ rfl⟩
    · intro zero
      rw [shown, List.head?_append_of_ne_nil _ filled] at zero
      exact absurd zero notZero

end Decimal

namespace Binary64

theorem trimmed_shortest (x : Binary64) (tie : TieRule) : (x.shortest tie).Trimmed := by
  have nothing : Decimal.Trimmed ⟨0, 0⟩ := fun _ => rfl
  unfold shortest
  split
  · exact nothing
  · simp only
    cases found : (List.range maxDigits).findSome? fun (count : Nat) =>
        let scale : Int := x.decimalExponent - count
        (x.onGrid? tie scale).map fun digits => Decimal.normalize digits scale with
    | none => exact nothing
    | some d =>
      obtain ⟨count, -, here⟩ := List.exists_of_findSome?_eq_some found
      obtain ⟨digits, -, rfl⟩ := Option.map_eq_some_iff.1 here
      exact Decimal.trimmed_normalize digits _

/-- The double of an integer up to `2 ^ 53` in size is shown as the integer. -/
theorem plainText_of_whole {x : Binary64} {n : Int} (whole : x.toRat = n)
    (zero : n = 0 → x.negative = false) (small : n.natAbs ≤ 2 ^ 53) :
    (Number.float x).plainText = Text.signedNumeralText n := by
  have size : x.magnitude = n.natAbs := by
    rw [← abs_toRat, whole, ← Int.cast_abs, Int.abs_eq_natAbs, Int.cast_natCast]
  have value : (x.shortest .up).toRat = n.natAbs :=
    x.isShortest_shortest.unique (isShortest_natural size small)
  have shown : x.plainChars = x.signChars ++ Text.numeral n.natAbs := by
    rw [plainChars, (x.trimmed_shortest .up).plain_eq value]
  show String.ofList x.plainChars = _
  rw [shown, signChars, negative_of_whole whole zero, Text.signedNumeralText]
  simp only [decide_eq_true_eq]
  split <;> rfl

end Binary64

end CloudInventory
