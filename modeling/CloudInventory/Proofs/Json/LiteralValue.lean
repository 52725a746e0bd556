import CloudInventory.Json.Number
import CloudInventory.Proofs.Binary64.Scaling

/-!
# The value of a number literal

A literal with a fraction or an exponent is read as a double. Its digits are taken while
they fit a word and scaled by a power of ten, so the double can differ from the value
that is written; by how much is bounded here.

Results:
1. `NumberLiteral.decimalParts_of_fits` and `NumberLiteral.abs_decimalParts_sub_le`: what
   the digits left out change.
2. `NumberLiteral.abs_toFloat?_sub_le`: the double is close to the literal.
3. `NumberLiteral.toFloat?_of_short`: a literal of few digits that is read as a trusted
   integer is that integer, or is read as zero.
4. `NumberLiteral.toRat_of_toFloat?`: such a literal of a small integer is read as it.
-/

namespace CloudInventory

/-- The exact value of a number. -/
def Number.toRat : Number → ℚ
  | .integer value _ => value
  | .float x => x.toRat

namespace NumberLiteral

/-! ## What a literal denotes -/

/-- All digits of a literal, of the whole part and of the fraction. -/
def digits (l : NumberLiteral) : List Char :=
  l.whole ++ l.fraction.getD []

/-- The value of a literal without its sign. -/
def magnitude (l : NumberLiteral) : ℚ :=
  Text.digitsValue l.digits * 10 ^ (l.writtenExponent - (l.fraction.getD []).length)

/-- The exact value of a literal. -/
def toRat (l : NumberLiteral) : ℚ :=
  if l.negative then -l.magnitude else l.magnitude

theorem magnitude_nonneg (l : NumberLiteral) : 0 ≤ l.magnitude :=
  mul_nonneg (Nat.cast_nonneg _) (zpow_nonneg (by norm_num) _)

theorem abs_toRat (l : NumberLiteral) : |l.toRat| = l.magnitude := by
  have nonneg := l.magnitude_nonneg
  cases sign : l.negative with
  | false => rw [toRat, sign, if_neg Bool.false_ne_true, abs_of_nonneg nonneg]
  | true => rw [toRat, sign, if_pos rfl, abs_neg, abs_of_nonneg nonneg]

/-! ## Digits of a scanned literal -/

theorem isDigit_of_mem_takeWhile {c : Char} {cs : List Char}
    (member : c ∈ cs.takeWhile Char.isDigit) : c.isDigit = true :=
  List.all_eq_true.1 List.all_takeWhile c member

theorem isDigit_of_scanWhole? {cs whole rest : List Char}
    (scanned : scanWhole? cs = some (whole, rest)) : ∀ c ∈ whole, c.isDigit = true := by
  unfold scanWhole? at scanned
  split at scanned
  · cases scanned
  · cases scanned
    exact List.forall_mem_singleton.2 (by decide)
  · cases scanned
  · cases scanned
    exact fun c member => isDigit_of_mem_takeWhile member

theorem isDigit_of_scanFraction? {cs rest : List Char} {fraction : Option (List Char)}
    (scanned : scanFraction? cs = some (fraction, rest)) :
    ∀ c ∈ fraction.getD [], c.isDigit = true := by
  unfold scanFraction? at scanned
  split at scanned
  · split at scanned
    · cases scanned
    · cases scanned
      exact fun c member => isDigit_of_mem_takeWhile member
  · cases scanned
    exact fun c member => absurd member List.not_mem_nil

/-- Only digits are scanned as digits. -/
theorem isDigit_of_scan? {cs rest : List Char} {l : NumberLiteral}
    (scanned : scan? cs = some (l, rest)) : ∀ c ∈ l.digits, c.isDigit = true := by
  simp only [scan?, Option.bind_eq_bind, Option.bind_eq_some_iff, Option.pure_def,
    Option.some.injEq, Prod.mk.injEq, Prod.exists] at scanned
  obtain ⟨_, _, whole, _, _, fraction, _, _, _, rfl, _⟩ := scanned
  intro c member
  rcases List.mem_append.1 member with inWhole | inFraction
  · exact isDigit_of_scanWhole? whole c inWhole
  · exact isDigit_of_scanFraction? fraction c inFraction

/-! ## Digits behind a prefix -/

theorem digit_le_nine {c : Char} (digit : c.isDigit = true) : c.toNat - '0'.toNat ≤ 9 := by
  have bounds := Char.isDigit_iff_toNat.1 digit
  have last : '9'.toNat = '0'.toNat + 9 := rfl
  omega

/-- The number that grows from a prefix by further digits. -/
abbrev continued (sofar : Nat) (ds : List Char) : Nat :=
  Nat.ofDigitChars 10 ds sofar

theorem continued_nil (sofar : Nat) : continued sofar [] = sofar := rfl

theorem digitsValue_append (ds more : List Char) :
    Text.digitsValue (ds ++ more) = continued (Text.digitsValue ds) more :=
  Nat.ofDigitChars_append 0

theorem le_continued (sofar : Nat) (ds : List Char) : sofar ≤ continued sofar ds := by
  rw [continued, Nat.ofDigitChars_eq_ofDigitChars_zero]
  have := Nat.le_mul_of_pos_left sofar (Nat.pow_pos (n := ds.length) (by decide : 0 < 10))
  omega

/-- Further digits stay within one step of the last place before them. -/
theorem continued_bounds {ds : List Char} (areDigits : ∀ c ∈ ds, c.isDigit = true) (sofar : Nat) :
    sofar * 10 ^ ds.length ≤ continued sofar ds ∧
      continued sofar ds < (sofar + 1) * 10 ^ ds.length := by
  induction ds generalizing sofar with
  | nil => simp [continued]
  | cons c cs ih =>
    obtain ⟨digit, areDigits⟩ := List.forall_mem_cons.1 areDigits
    obtain ⟨low, high⟩ := ih areDigits (10 * sofar + (c.toNat - '0'.toNat))
    have nine := digit_le_nine digit
    rw [continued, Nat.ofDigitChars_cons]
    rw [List.length_cons, Nat.pow_succ]
    constructor
    · refine Nat.le_trans ?_ low
      rw [Nat.mul_comm (10 ^ cs.length), ← Nat.mul_assoc]
      exact Nat.mul_le_mul_right _ (by omega)
    · refine Nat.lt_of_lt_of_le high ?_
      rw [Nat.mul_comm (10 ^ cs.length), ← Nat.mul_assoc]
      exact Nat.mul_le_mul_right _ (by omega)

/-- The digits taken make up the value, and the first one left out does not fit a word. -/
theorem takeFitting_spec {sofar value : Nat} {ds rest : List Char} (word : sofar < UInt64.size)
    (areDigits : ∀ c ∈ ds, c.isDigit = true) (taken : takeFitting sofar ds = (value, rest)) :
    ∃ front, ds = front ++ rest ∧ value = continued sofar front ∧ value < UInt64.size ∧
      (rest = [] ∨ 10 ^ 18 ≤ value) := by
  fun_induction takeFitting sofar ds with
  | case1 sofar =>
    cases taken
    exact ⟨[], rfl, rfl, word, .inl rfl⟩
  | case2 sofar c cs next fits ih =>
    obtain ⟨_, areDigits⟩ := List.forall_mem_cons.1 areDigits
    obtain ⟨front, rfl, same, below, ends⟩ := ih fits areDigits taken
    exact ⟨c :: front, rfl, same, below, ends⟩
  | case3 sofar c cs next large =>
    cases taken
    refine ⟨[], rfl, rfl, word, .inr ?_⟩
    have nine := digit_le_nine (List.forall_mem_cons.1 areDigits).1
    have size : UInt64.size = 18446744073709551616 := rfl
    omega

/-- Digits that fit a word altogether are all taken. -/
theorem takeFitting_of_fits {sofar : Nat} {ds : List Char}
    (fits : continued sofar ds < UInt64.size) :
    takeFitting sofar ds = (continued sofar ds, []) := by
  induction ds generalizing sofar with
  | nil => rfl
  | cons c cs ih =>
    rw [continued, Nat.ofDigitChars_cons] at fits ⊢
    rw [takeFitting, if_pos (Nat.lt_of_le_of_lt (le_continued _ cs) fits), ih fits]

/-! ## The decimal that is read -/

section

variable {l : NumberLiteral}

/-- The decimal of a literal by the digits that are taken and those that are left out. -/
theorem decimalParts_eq {whole significand : Nat} {dropped ignored : List Char}
    (first : takeFitting 0 l.whole = (whole, dropped))
    (second : takeFitting whole (l.fraction.getD []) = (significand, ignored)) :
    l.decimalParts = (significand, dropped.length -
      (((l.fraction.getD []).length - ignored.length : Nat) : Int) + l.writtenExponent) := by
  rw [decimalParts, first]
  simp only
  rw [second]

/-- Digits that fit a word are all taken, and the decimal is what is written. -/
theorem decimalParts_of_fits (fits : Text.digitsValue l.digits < UInt64.size) :
    l.decimalParts =
      (Text.digitsValue l.digits, l.writtenExponent - (l.fraction.getD []).length) := by
  rw [digits, digitsValue_append] at fits ⊢
  have wholeFits := Nat.lt_of_le_of_lt (le_continued _ _) fits
  rw [decimalParts_eq (takeFitting_of_fits wholeFits) (takeFitting_of_fits fits)]
  refine Prod.ext rfl ?_
  simp only [List.length_nil]
  omega

/-- The decimal has the first digits of the literal, and all of them or so many that what
follows hardly matters. Fraction digits may follow in the place of dropped ones. -/
theorem decimalParts_cases (areDigits : ∀ c ∈ l.digits, c.isDigit = true) :
    l.decimalParts.1 < UInt64.size ∧ ∃ front written read : List Char,
      l.digits = front ++ written ∧ (∀ c ∈ read, c.isDigit = true) ∧
        (read = written ∨ 10 ^ 18 ≤ Text.digitsValue front) ∧
        l.decimalParts = (continued (Text.digitsValue front) read,
          l.writtenExponent - (l.fraction.getD []).length + written.length - read.length) := by
  obtain ⟨wholeDigits, fractionDigits⟩ := List.forall_mem_append.1 areDigits
  cases first : takeFitting 0 l.whole with
  | mk whole dropped =>
  cases second : takeFitting whole (l.fraction.getD []) with
  | mk significand ignored =>
  have parts := decimalParts_eq first second
  obtain ⟨front, wholeSplit, rfl, wholeFits, wholeEnds⟩ :=
    takeFitting_spec (by decide) wholeDigits first
  obtain ⟨taken, fractionSplit, rfl, fits, fractionEnds⟩ :=
    takeFitting_spec wholeFits fractionDigits second
  have places : (l.fraction.getD []).length = taken.length + ignored.length := by
    rw [fractionSplit, List.length_append]
  rw [parts]
  refine ⟨fits, ?_⟩
  rcases wholeEnds with rfl | long
  · -- The whole part fits: what is left out is the end of the fraction.
    refine ⟨front ++ taken, ignored, [], ?_, fun c member => absurd member List.not_mem_nil, ?_, ?_⟩
    · rw [digits, wholeSplit, fractionSplit, List.append_nil, List.append_assoc]
    · rw [digitsValue_append]
      exact fractionEnds.imp_left Eq.symm
    · rw [continued_nil, digitsValue_append]
      refine Prod.ext rfl ?_
      simp only [List.length_nil]
      omega
  · -- It does not: the digits of the fraction come right behind those that were taken.
    refine ⟨front, dropped ++ l.fraction.getD [], taken, ?_, ?_, .inr long, ?_⟩
    · rw [digits, wholeSplit, List.append_assoc]
    · rw [fractionSplit] at fractionDigits
      exact (List.forall_mem_append.1 fractionDigits).1
    · rw [List.length_append]
      refine Prod.ext rfl ?_
      simp only
      omega

/-- The value of digits behind a prefix, the last of which stands at a power of ten. -/
theorem scaled_continued_bounds {ds : List Char} (areDigits : ∀ c ∈ ds, c.isDigit = true)
    (sofar : Nat) (e : Int) :
    (sofar : ℚ) * 10 ^ e ≤ continued sofar ds * 10 ^ (e - ds.length) ∧
      continued sofar ds * 10 ^ (e - ds.length) ≤ (sofar + 1 : ℚ) * 10 ^ e := by
  obtain ⟨low, high⟩ := continued_bounds areDigits sofar
  have low' : (sofar * 10 ^ ds.length : ℚ) ≤ continued sofar ds := by exact_mod_cast low
  have high' : (continued sofar ds : ℚ) ≤ (sofar + 1) * 10 ^ ds.length := by
    exact_mod_cast Nat.le_of_lt high
  have scale : (0 : ℚ) ≤ 10 ^ (e - ds.length) := zpow_nonneg (by norm_num) _
  have power : (10 : ℚ) ^ e = 10 ^ ds.length * 10 ^ (e - ds.length) := by
    rw [← zpow_natCast, ← zpow_add₀ (by norm_num)]
    congr 1
    omega
  rw [power, ← mul_assoc, ← mul_assoc]
  exact ⟨mul_le_mul_of_nonneg_right low' scale, mul_le_mul_of_nonneg_right high' scale⟩

/-- Two continuations of one long prefix are close to each other. -/
theorem abs_continued_sub_le {sofar : Nat} (long : 10 ^ 18 ≤ sofar) {ds other : List Char}
    (areDigits : ∀ c ∈ ds, c.isDigit = true) (otherDigits : ∀ c ∈ other, c.isDigit = true)
    (e : Int) :
    |(continued sofar other : ℚ) * 10 ^ (e - other.length) -
        continued sofar ds * 10 ^ (e - ds.length)| ≤
      continued sofar ds * 10 ^ (e - ds.length) / 10 ^ 18 := by
  obtain ⟨low, high⟩ := scaled_continued_bounds areDigits sofar e
  obtain ⟨otherLow, otherHigh⟩ := scaled_continued_bounds otherDigits sofar e
  have long' : (10 ^ 18 : ℚ) ≤ sofar := by exact_mod_cast long
  have step := mul_le_mul_of_nonneg_right long' (zpow_nonneg (by norm_num) e : (0 : ℚ) ≤ 10 ^ e)
  rw [add_one_mul] at high otherHigh
  rw [abs_le]
  constructor <;> linarith

/-- The digits left out change the value by less than one part in `10 ^ 18`. -/
theorem abs_decimalParts_sub_le (areDigits : ∀ c ∈ l.digits, c.isDigit = true) :
    |l.decimalParts.1 * 10 ^ l.decimalParts.2 - l.magnitude| ≤ l.magnitude / 10 ^ 18 := by
  obtain ⟨-, front, written, read, split, readDigits, ends, parts⟩ := decimalParts_cases areDigits
  have value : l.magnitude = continued (Text.digitsValue front) written *
      10 ^ (l.writtenExponent - (l.fraction.getD []).length + written.length -
        written.length) := by
    rw [add_sub_cancel_right, magnitude, split, digitsValue_append]
  rw [parts]
  rcases ends with rfl | long
  · rw [← value, sub_self, abs_zero]
    exact div_nonneg l.magnitude_nonneg (by norm_num)
  · rw [split] at areDigits
    rw [value]
    exact abs_continued_sub_le long (List.forall_mem_append.1 areDigits).2 readDigits _

/-! ## The double that is read -/

/-- A literal with a fraction or an exponent is read as a double. -/
theorem value?_of_fractional (fractional : l.fraction ≠ none ∨ l.exponent ≠ none) :
    l.value? = l.toFloat? := by
  unfold value?
  split
  next noFraction noExponent =>
    rcases fractional with some | some
    · exact absurd noFraction some
    · exact absurd noExponent some
  next => rfl

/-- The double is that of the decimal, with the sign of the literal. -/
theorem toFloat?_eq_some_iff {n : Number} :
    l.toFloat? = some n ↔ ∃ x, Binary64.ofDecimal? l.decimalParts.1 l.decimalParts.2 = some x ∧
      n = .float (x.withSign l.negative) := by
  rw [toFloat?, Option.map_eq_some_iff]
  simp only [eq_comm]

/-- The double of a literal is close to what is written. -/
theorem abs_toFloat?_sub_le {n : Number} (areDigits : ∀ c ∈ l.digits, c.isDigit = true)
    (read : l.toFloat? = some n) :
    |n.toRat - l.toRat| ≤ |l.toRat| / 2 ^ 51 + Binary64.underflow := by
  obtain ⟨x, made, rfl⟩ := toFloat?_eq_some_iff.1 read
  obtain ⟨cut_above, cut_below⟩ := abs_le.1 (abs_decimalParts_sub_le areDigits)
  obtain ⟨scaled_above, scaled_below⟩ :=
    abs_le.1 (Binary64.abs_ofDecimal?_sub_le (decimalParts_cases areDigits).1 made)
  have nonneg := l.magnitude_nonneg
  have near : |x.magnitude - l.magnitude| ≤ l.magnitude / 2 ^ 51 + Binary64.underflow := by
    rw [abs_le]
    constructor <;> linarith
  rw [abs_toRat]
  show |(if l.negative then -x.magnitude else x.magnitude) - l.toRat| ≤ _
  rw [toRat]
  cases l.negative with
  | false => exact near
  | true =>
    rw [if_pos rfl, if_pos rfl, neg_sub_neg, abs_sub_comm]
    exact near

/-- A literal of few digits that is read as a trusted integer is that integer, or it is
read as zero. -/
theorem toFloat?_of_short {n : Number} {value : Int} (short : Text.digitsValue l.digits < 2 ^ 53)
    (trusted : value.natAbs ≤ 2 ^ 53) (read : l.toFloat? = some n) (whole : n.toRat = value) :
    l.toRat = value ∨ value = 0 := by
  obtain ⟨x, made, rfl⟩ := toFloat?_eq_some_iff.1 read
  rw [decimalParts_of_fits (Nat.lt_trans short (by decide))] at made
  have natural : x.magnitude = value.natAbs := by
    have size : |Number.toRat (.float (x.withSign l.negative))| = x.magnitude :=
      (x.withSign l.negative).abs_toRat
    rw [← size, whole, ← Int.cast_abs, Int.abs_eq_natAbs, Int.cast_natCast]
  rcases Binary64.ofDecimal?_of_short short trusted made natural with equal | none
  · left
    rw [← whole]
    show _ = if l.negative then -x.magnitude else x.magnitude
    rw [equal]
    rfl
  · right
    rw [natural] at none
    exact Int.natAbs_eq_zero.1 (by exact_mod_cast none)

/-- A literal of few digits that stands for a small integer is read as that integer. -/
theorem toRat_of_toFloat? {n : Number} {value : Int} (short : Text.digitsValue l.digits < 2 ^ 53)
    (small : value.natAbs ≤ 2 ^ 53) (read : l.toFloat? = some n) (written : l.toRat = value) :
    n.toRat = value := by
  obtain ⟨x, made, rfl⟩ := toFloat?_eq_some_iff.1 read
  rw [decimalParts_of_fits (Nat.lt_trans short (by decide))] at made
  have natural : l.magnitude = value.natAbs := by
    rw [← abs_toRat, written, ← Int.cast_abs, Int.abs_eq_natAbs, Int.cast_natCast]
  have same : x.magnitude = l.magnitude := by
    rw [natural]
    exact Binary64.ofDecimal?_of_natural short small natural made
  rw [← written, toRat, ← same]
  rfl

end

end NumberLiteral

end CloudInventory
