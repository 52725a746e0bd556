import CloudInventory.Proofs.Binary64.Scaling

/-!
# What is read back as a double

The values that one rounding takes to a double are an interval around it: half a unit in
the last place to either side, but a quarter below the first double of a binade, and the
ends belong to it when the significand is even.

Results:
1. `Binary64.readsBack_iff`: the test of a decimal is membership in the interval.
2. `Binary64.RoundsFrom.of_between` and `Binary64.RoundsFrom.abs_sub_le`: the interval is
   convex, and no wider than a unit in the last place.
3. `Binary64.roundsFrom_ofRatio?`, `Binary64.roundsFrom_mul?`, `Binary64.roundsFrom_div?`:
   a value that is rounded once lies in the interval of what it is rounded to.
-/

namespace CloudInventory

namespace Binary64

/-! ## The interval -/

/-- The unit in the last place. -/
def unit (x : Binary64) : ℚ :=
  2 ^ x.exponent

/-- The lower end in quarters of a unit. -/
def lowQuarters (x : Binary64) : Nat :=
  4 * x.significand - if x.significand = 0x10000000000000 ∧ x.exponent ≠ -1074 then 1 else 2

/-- The upper end in quarters of a unit. -/
def highQuarters (x : Binary64) : Nat :=
  4 * x.significand + 2

/-- One rounding takes the value to the magnitude of the double. -/
def RoundsFrom (x : Binary64) (v : ℚ) : Prop :=
  if x.significand % 2 = 0 then
    x.lowQuarters * (x.unit / 4) ≤ v ∧ v ≤ x.highQuarters * (x.unit / 4)
  else
    x.lowQuarters * (x.unit / 4) < v ∧ v < x.highQuarters * (x.unit / 4)

theorem unit_pos (x : Binary64) : 0 < x.unit :=
  zpow_pos (by norm_num) _

theorem magnitude_eq (x : Binary64) : x.magnitude = x.significand * x.unit := rfl

/-- Both sides are compared as the values that they stand for. -/
theorem onCommonScale_iff (quarters : Nat) (exponent : Int) (digits : Nat) (scale : Int) :
    let sides := onCommonScale quarters exponent digits scale
    let end_ : ℚ := quarters * (2 ^ exponent / 4)
    let candidate : ℚ := digits * 10 ^ scale
    ((sides.1 ≤ sides.2 ↔ end_ ≤ candidate) ∧ (sides.1 < sides.2 ↔ end_ < candidate)) ∧
      (sides.2 ≤ sides.1 ↔ candidate ≤ end_) ∧ (sides.2 < sides.1 ↔ candidate < end_) := by
  intro sides end_ candidate
  have denominator : (0 : ℚ) < 4 * 2 ^ (-exponent).toNat * 10 ^ (-scale).toNat := by positivity
  have first : (sides.1 : ℚ) = end_ * (4 * 2 ^ (-exponent).toNat * 10 ^ (-scale).toNat) := by
    simp only [sides, end_, onCommonScale, ← pow_toNat_div_pow_toNat 2 exponent]
    push_cast
    simp only [cast_twoPow, cast_tenPow]
    field_simp
  have second : (sides.2 : ℚ) = candidate * (4 * 2 ^ (-exponent).toNat * 10 ^ (-scale).toNat) := by
    simp only [sides, candidate, onCommonScale, ← pow_toNat_div_pow_toNat 10 scale]
    push_cast
    simp only [cast_twoPow, cast_tenPow]
    field_simp
  simp only [← Nat.cast_le (α := ℚ), ← Nat.cast_lt (α := ℚ), first, second,
    mul_le_mul_iff_left₀ denominator, mul_lt_mul_iff_left₀ denominator, and_self]

/-- The test of a decimal is membership in the interval. -/
theorem readsBack_iff (x : Binary64) (digits : Nat) (scale : Int) :
    x.readsBack digits scale = true ↔ x.RoundsFrom (digits * 10 ^ scale) := by
  obtain ⟨⟨low, lowStrict⟩, -⟩ := onCommonScale_iff x.lowQuarters x.exponent digits scale
  obtain ⟨-, high, highStrict⟩ := onCommonScale_iff x.highQuarters x.exponent digits scale
  rw [RoundsFrom, unit]
  split
  next even =>
    rw [← low, ← high]
    simp only [readsBack, if_pos even, Bool.and_eq_true, decide_eq_true_eq]
    rfl
  next odd =>
    rw [← lowStrict, ← highStrict]
    simp only [readsBack, if_neg odd, Bool.and_eq_true, decide_eq_true_eq]
    rfl

/-! ## The shape of the interval -/

section

variable {x : Binary64} {v w u : ℚ}

theorem RoundsFrom.bounds (rounds : x.RoundsFrom v) :
    x.lowQuarters * (x.unit / 4) ≤ v ∧ v ≤ x.highQuarters * (x.unit / 4) := by
  unfold RoundsFrom at rounds
  split at rounds
  · exact rounds
  · exact ⟨le_of_lt rounds.1, le_of_lt rounds.2⟩

theorem roundsFrom_of_strict (low : x.lowQuarters * (x.unit / 4) < v)
    (high : v < x.highQuarters * (x.unit / 4)) : x.RoundsFrom v := by
  unfold RoundsFrom
  split
  · exact ⟨le_of_lt low, le_of_lt high⟩
  · exact ⟨low, high⟩

/-- What lies between two values that are rounded to a double is rounded to it. -/
theorem RoundsFrom.of_between (first : x.RoundsFrom v) (second : x.RoundsFrom w) (above : v ≤ u)
    (below : u ≤ w) : x.RoundsFrom u := by
  unfold RoundsFrom at *
  split
  next even =>
    rw [if_pos even] at first second
    exact ⟨first.1.trans above, below.trans second.2⟩
  next odd =>
    rw [if_neg odd] at first second
    exact ⟨lt_of_lt_of_le first.1 above, lt_of_le_of_lt below second.2⟩

theorem lowQuarters_cases (x : Binary64) (filled : x.significand ≠ 0) :
    (x.lowQuarters : ℚ) = 4 * x.significand - 2 ∨
      x.significand = 2 ^ 52 ∧ x.exponent ≠ -1074 ∧
        (x.lowQuarters : ℚ) = 4 * x.significand - 1 := by
  have positive : 1 ≤ x.significand := Nat.one_le_iff_ne_zero.2 filled
  unfold lowQuarters
  split
  next first =>
    right
    refine ⟨first.1, first.2, ?_⟩
    rw [Nat.cast_sub (by omega)]
    push_cast
    rfl
  next =>
    left
    rw [Nat.cast_sub (by omega)]
    push_cast
    rfl

theorem cast_highQuarters (x : Binary64) : (x.highQuarters : ℚ) = 4 * x.significand + 2 := by
  rw [highQuarters]
  push_cast
  rfl

/-- A value that is rounded to a double is at most half a unit away. -/
theorem RoundsFrom.abs_sub_magnitude_le (rounds : x.RoundsFrom v) :
    |v - x.magnitude| ≤ x.unit / 2 := by
  obtain ⟨low, high⟩ := rounds.bounds
  have positive := x.unit_pos
  have lowest : (4 * x.significand - 2 : ℚ) ≤ x.lowQuarters := by
    have : 4 * x.significand ≤ x.lowQuarters + 2 := by
      unfold lowQuarters
      split <;> omega
    have : (4 * x.significand : ℚ) ≤ x.lowQuarters + 2 := by exact_mod_cast this
    linarith
  have low' := (mul_le_mul_of_nonneg_right lowest (by linarith : 0 ≤ x.unit / 4)).trans low
  rw [cast_highQuarters] at high
  rw [magnitude_eq, abs_le]
  constructor <;> linarith

/-- Two values that are rounded to one double are at most a unit apart. -/
theorem RoundsFrom.abs_sub_le (first : x.RoundsFrom v) (second : x.RoundsFrom w) :
    |v - w| ≤ x.unit := by
  have near := abs_le.1 first.abs_sub_magnitude_le
  have nearToo := abs_le.1 second.abs_sub_magnitude_le
  rw [abs_le]
  constructor <;> linarith [near.1, near.2, nearToo.1, nearToo.2]

/-- A double other than zero is inside the ends of its interval. -/
theorem magnitude_between (filled : x.significand ≠ 0) :
    x.lowQuarters * (x.unit / 4) < x.magnitude ∧
      x.magnitude < x.highQuarters * (x.unit / 4) := by
  have positive := x.unit_pos
  rw [magnitude_eq, cast_highQuarters]
  refine ⟨?_, by linarith⟩
  rcases x.lowQuarters_cases filled with low | ⟨-, -, low⟩ <;>
  · rw [low]
    linarith

/-- A double is rounded to itself. -/
theorem roundsFrom_magnitude (x : Binary64) : x.RoundsFrom x.magnitude := by
  rcases Nat.eq_zero_or_pos x.significand with empty | filled
  · have positive := x.unit_pos
    rw [RoundsFrom, if_pos (by rw [empty]), magnitude_eq, lowQuarters, highQuarters, empty]
    constructor
    · norm_num
    · norm_num
      linarith
  · obtain ⟨low, high⟩ := magnitude_between (Nat.ne_of_gt filled)
    exact roundsFrom_of_strict low high

/-- Only values above zero are rounded to a double other than zero. -/
theorem RoundsFrom.pos (rounds : x.RoundsFrom v) (filled : x.significand ≠ 0) : 0 < v := by
  have one_le : (1 : ℚ) ≤ x.significand := by exact_mod_cast Nat.one_le_iff_ne_zero.2 filled
  have positive := x.unit_pos
  have below : (0 : ℚ) < x.lowQuarters * (x.unit / 4) := by
    apply mul_pos _ (by linarith)
    rcases x.lowQuarters_cases filled with low | ⟨-, -, low⟩ <;> linarith
  exact lt_of_lt_of_le below rounds.bounds.1

/-- Only a double of the normal range has a value of that range in its interval. -/
theorem RoundsFrom.normal (rounds : x.RoundsFrom v) (large : 1 / 2 ^ 1022 ≤ v) :
    2 ^ 52 ≤ x.significand := by
  rcases x.normal with least | normal
  · by_contra small
    have below : (x.significand : ℚ) + 1 ≤ 2 ^ 52 := by exact_mod_cast Nat.lt_of_not_le small
    have unit : x.unit = 1 / 2 ^ 1074 := by
      rw [Binary64.unit, least]
      norm_num
    have high := rounds.bounds.2
    rw [cast_highQuarters, unit] at high
    have bound : (4 * x.significand + 2 : ℚ) * (1 / 2 ^ 1074 / 4) <
        4 * 2 ^ 52 * (1 / 2 ^ 1074 / 4) :=
      mul_lt_mul_of_pos_right (by linarith) (by positivity)
    have least_normal : (4 * 2 ^ 52 : ℚ) * (1 / 2 ^ 1074 / 4) = 1 / 2 ^ 1022 := by
      rw [show 1074 = 1022 + 52 from rfl, pow_add]
      field_simp
    rw [least_normal] at bound
    exact absurd (large.trans high) (not_le.2 bound)
  · exact normal

/-- Half a unit is one part in `2 ^ 53` of a double, or next to nothing. -/
theorem unit_div_two_le (x : Binary64) : x.unit / 2 ≤ x.magnitude / 2 ^ 53 + underflow / 100 := by
  have tiny := underflow_pos
  have nonneg := x.magnitude_nonneg
  rcases x.normal with least | normal
  · have half : x.unit / 2 ≤ underflow / 100 := by
      rw [unit, least, half_leastUnit]
      exact half_least_le_underflow
    linarith
  · have normal' : (2 ^ 52 : ℚ) ≤ x.significand := by exact_mod_cast normal
    have size := mul_le_mul_of_nonneg_right normal' (le_of_lt x.unit_pos)
    rw [← magnitude_eq] at size
    linarith

/-- The sign has no part in the rounding. -/
theorem roundsFrom_withSign (negative : Bool) :
    (x.withSign negative).RoundsFrom v ↔ x.RoundsFrom v :=
  Iff.rfl

end

/-! ## One rounding -/

/-- Of two natural numbers equally near to a quotient the even one is taken. -/
theorem nearestQuotient_of_odd (num : Nat) {den : Nat} (positive : 0 < den)
    (odd : nearestQuotient num den % 2 = 1) :
    2 * num < 2 * (nearestQuotient num den * den) + den ∧
      2 * (nearestQuotient num den * den) < 2 * num + den := by
  have division := Nat.div_add_mod num den
  have small := Nat.mod_lt num positive
  have next : (num / den + 1) * den = num / den * den + den := Nat.succ_mul _ _
  rw [Nat.mul_comm] at division
  unfold nearestQuotient at odd ⊢
  simp only at odd ⊢
  split at odd
  next below =>
    rw [if_pos below]
    omega
  next =>
    split at odd
    next above => 
      rw [if_neg (by omega), if_pos above]
      omega
    next => 
      split at odd <;> omega

/-- An odd nearest number is less than one half away. -/
theorem abs_nearestQuotient_sub_lt (num : Nat) {den : Nat} (positive : 0 < den)
    (odd : nearestQuotient num den % 2 = 1) :
    |(nearestQuotient num den : ℚ) - num / den| < 1 / 2 := by
  obtain ⟨above, below⟩ := nearestQuotient_of_odd num positive odd
  have den_pos : (0 : ℚ) < den := Nat.cast_pos.2 positive
  have above' : (2 * num : ℚ) < 2 * (nearestQuotient num den * den) + den := by
    exact_mod_cast above
  have below' : (2 * (nearestQuotient num den * den) : ℚ) < 2 * num + den := by
    exact_mod_cast below
  rw [abs_lt]
  constructor
  · rw [neg_lt_sub_iff_lt_add, div_lt_iff₀ den_pos]
    linarith
  · rw [sub_lt_iff_lt_add, ← sub_lt_iff_lt_add', lt_div_iff₀ den_pos]
    linarith

/-- Membership in the interval, counted in quarters of a unit. -/
theorem roundsFrom_mul_unit_iff {x : Binary64} {units : ℚ} :
    x.RoundsFrom (units * x.unit) ↔
      if x.significand % 2 = 0 then
        (x.lowQuarters : ℚ) ≤ 4 * units ∧ 4 * units ≤ x.highQuarters
      else (x.lowQuarters : ℚ) < 4 * units ∧ 4 * units < x.highQuarters := by
  have quarter : 0 < x.unit / 4 := by linarith [x.unit_pos]
  have same : units * x.unit = 4 * units * (x.unit / 4) := by ring
  rw [RoundsFrom, same]
  simp only [mul_le_mul_iff_left₀ quarter, mul_lt_mul_iff_left₀ quarter]

section

variable {x : Binary64} {units : ℚ}

/-- The nearest count of units has the counted value in its interval. In the first double of
a binade the interval is cut short, but so are the values. -/
theorem roundsFrom_of_units (near : |x.significand - units| ≤ 1 / 2)
    (nearer : x.significand % 2 = 1 → |x.significand - units| < 1 / 2) (nonneg : 0 ≤ units)
    (places : x.exponent ≠ -1074 → 2 ^ 52 ≤ units) : x.RoundsFrom (units * x.unit) := by
  rw [roundsFrom_mul_unit_iff, cast_highQuarters]
  obtain ⟨above, below⟩ := abs_le.1 near
  rcases Nat.mod_two_eq_zero_or_one x.significand with even | odd
  · rw [if_pos even]
    refine ⟨?_, by linarith⟩
    rcases Nat.eq_zero_or_pos x.significand with empty | filled
    · have low : x.lowQuarters = 0 := by
        rw [lowQuarters, empty]
        rfl
      rw [low, Nat.cast_zero]
      linarith
    · rcases x.lowQuarters_cases (Nat.ne_of_gt filled) with low | ⟨first, regular, low⟩
      · rw [low]
        linarith
      · have enough := places regular
        rw [low, first]
        norm_num at enough ⊢
        linarith
  · rw [if_neg (by omega)]
    obtain ⟨above, below⟩ := abs_lt.1 (nearer odd)
    refine ⟨?_, by linarith⟩
    rcases x.lowQuarters_cases (by omega) with low | ⟨first, -, -⟩
    · rw [low]
      linarith
    · rw [first] at odd
      exact absurd odd (by decide)

/-- A count that takes one bit too many moves into the exponent: half as many units, each
twice as great. -/
theorem roundsFrom_of_carry (significand : x.significand = 2 ^ 52) (regular : x.exponent ≠ -1074)
    (near : |2 ^ 53 - units| ≤ 1 / 2) : x.RoundsFrom (units / 2 * x.unit) := by
  obtain ⟨above, below⟩ := abs_le.1 near
  have low : x.lowQuarters = 4 * 2 ^ 52 - 1 := by
    rw [lowQuarters, significand, if_pos ⟨rfl, regular⟩]
  rw [roundsFrom_mul_unit_iff, significand, if_pos (by rfl), low, cast_highQuarters, significand]
  norm_num at above below ⊢
  constructor <;> linarith

end

section

variable {num den : Nat}

/-- Above the least unit a ratio has at least 53 places. -/
theorem two_pow_le_of_unitExponent (num_pos : 0 < num) (den_pos : 0 < den)
    (above : unitExponent num den ≠ -1074) :
    (2 : ℚ) ^ 52 ≤ num / den / 2 ^ unitExponent num den := by
  have exponent : ratioLog2 num den = 52 + unitExponent num den := by
    unfold unitExponent at above ⊢
    omega
  have logarithm := pow_ratioLog2_le num_pos den_pos
  rw [exponent, zpow_add₀ (by norm_num)] at logarithm
  exact (le_div_iff₀ (zpow_pos (by norm_num) _)).2 logarithm

/-- An odd count of last places is off by less than one half. -/
theorem abs_unitCount_sub_lt (num : Nat) (den_pos : 0 < den) (odd : unitCount num den % 2 = 1) :
    |(unitCount num den : ℚ) - num / den / 2 ^ unitExponent num den| < 1 / 2 := by
  rw [div_unit_eq num den_pos]
  exact abs_nearestQuotient_sub_lt _ (Nat.mul_pos den_pos (Nat.pow_pos (by decide))) odd

theorem parts_of_ofParts? {negative : Bool} {significand : Nat} {exponent : Int} {x : Binary64}
    (made : ofParts? negative significand exponent = some x) :
    x.significand = significand ∧ x.exponent = exponent := by
  obtain ⟨_, same⟩ := Option.dite_none_right_eq_some.1 made
  cases same
  exact ⟨rfl, rfl⟩

/-- The parts of a rounded ratio have the ratio in their interval. -/
theorem roundsFrom_of_ofParts? {negative : Bool} {x : Binary64} (num_pos : 0 < num)
    (den_pos : 0 < den)
    (made : ofParts? negative (nearestParts num den).1 (nearestParts num den).2 = some x) :
    x.RoundsFrom (num / den) := by
  have unit_pos : (0 : ℚ) < 2 ^ unitExponent num den := zpow_pos (by norm_num) _
  have near := abs_unitCount_sub_le num den_pos
  have nonneg : (0 : ℚ) ≤ num / den / 2 ^ unitExponent num den := by positivity
  have least : -1074 ≤ unitExponent num den := le_max_right _ _
  rw [← div_mul_cancel₀ ((num : ℚ) / den) (ne_of_gt unit_pos)]
  rw [nearestParts_eq] at made
  split at made
  next carry =>
    obtain ⟨significand, up⟩ : x.significand = 2 ^ 52 ∧ x.exponent = unitExponent num den + 1 :=
      parts_of_ofParts? made
    have twice (units : ℚ) : units * 2 ^ unitExponent num den = units / 2 * x.unit := by
      rw [unit, up, zpow_add₀ (by norm_num), zpow_one]
      ring
    rw [carry] at near
    rw [twice]
    exact roundsFrom_of_carry significand (by omega) (by exact_mod_cast near)
  next =>
    obtain ⟨significand, same⟩ : x.significand = unitCount num den ∧
        x.exponent = unitExponent num den := parts_of_ofParts? made
    rw [← significand] at near
    rw [show (2 : ℚ) ^ unitExponent num den = x.unit by rw [unit, same]] at near nonneg ⊢
    refine roundsFrom_of_units near (fun odd => ?_) nonneg fun regular => ?_
    · rw [significand] at odd ⊢
      rw [unit, same]
      exact abs_unitCount_sub_lt num den_pos odd
    · rw [unit, same]
      exact two_pow_le_of_unitExponent num_pos den_pos (same ▸ regular)

/-- A ratio that is rounded once lies in the interval of what it is rounded to. -/
theorem roundsFrom_ofRatio? {negative : Bool} {x : Binary64} (den_pos : 0 < den)
    (made : ofRatio? negative num den = some x) : x.RoundsFrom (num / den) := by
  rw [ofRatio?] at made
  split at made
  next empty =>
    cases made
    have own := roundsFrom_magnitude (zero negative)
    rwa [magnitude_zero, ← zero_div (den : ℚ), ← Nat.cast_zero, ← empty] at own
  next filled => exact roundsFrom_of_ofParts? (Nat.pos_of_ne_zero filled) den_pos made

theorem roundsFrom_mul? {x y z : Binary64} (made : x.mul? y = some z) :
    z.RoundsFrom (x.magnitude * y.magnitude) := by
  obtain ⟨_, _, _, den_pos, ratio, value⟩ := ratio_of_mul? made
  exact value ▸ roundsFrom_ofRatio? den_pos ratio

theorem roundsFrom_div? {x y z : Binary64} (divisor : 0 < y.magnitude)
    (made : x.div? y = some z) : z.RoundsFrom (x.magnitude / y.magnitude) := by
  obtain ⟨_, _, _, den_pos, ratio, value⟩ := ratio_of_div? divisor made
  exact value ▸ roundsFrom_ofRatio? den_pos ratio

end

/-! ## Decimals of few places -/

/-- A short decimal near one is rounded once. -/
theorem roundsFrom_ofDecimal? {significand : Nat} {exponent : Int} {x : Binary64}
    (short : significand < 2 ^ 53) (near : exponent.natAbs ≤ 22)
    (made : ofDecimal? significand exponent = some x) :
    x.RoundsFrom (significand * 10 ^ exponent) := by
  obtain ⟨whole, rounded, scaled⟩ := Option.bind_eq_some_iff.1 made
  have exact : whole.magnitude = significand :=
    (roundsTo_ofNat? rounded).eq_natCast (Nat.le_of_lt short)
  have short' : (significand : ℚ) < 2 ^ 53 := by exact_mod_cast short
  split at scaled
  next down =>
    obtain ⟨n, size⟩ := Int.eq_ofNat_of_zero_le (a := -exponent) (by omega)
    obtain rfl : exponent = -n := by omega
    rw [Int.natAbs_neg, Int.natAbs_natCast] at scaled near
    rcases scaleDown?_cases (by omega) (by rw [exact]; linarith) scaled with
      ⟨-, p, power, quotient⟩ | ⟨long, -, -⟩
    · have rounds := roundsFrom_div? (powerOfTen?_pos power) quotient
      rw [exact, powerOfTen?_of_short near power] at rounds
      rw [zpow_neg, zpow_natCast, ← div_eq_mul_inv]
      exact rounds
    · have : maxPower = 308 := rfl
      omega
  next up =>
    obtain ⟨n, rfl⟩ := Int.eq_ofNat_of_zero_le (Int.not_lt.1 up)
    rw [Int.natAbs_natCast] at scaled near
    rcases scaleUp?_cases scaled with ⟨p, power, product⟩ | ⟨empty, same⟩
    · have rounds := roundsFrom_mul? product
      rw [exact, powerOfTen?_of_short near power] at rounds
      rw [zpow_natCast]
      exact rounds
    · rw [exact] at empty
      rw [empty, zero_mul, ← same]
      exact x.roundsFrom_magnitude

end Binary64

end CloudInventory
