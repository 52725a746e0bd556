import CloudInventory.Proofs.Binary64.ShortestDecimal
import CloudInventory.Proofs.Json.LiteralValue

/-!
# Plain texts of numbers

The plain text of a number is a literal without an exponent, and it stands for what is
shown: the integer, or the shortest decimal of the double with its sign.

Results:
1. `NumberLiteral.scan?_spelled_append`: a literal that is written out is scanned back,
   whatever stands behind it that is no part of a number.
2. `Decimal.spelled_plainLiteral` and `Decimal.toRat_plainLiteral`: the plain layout writes
   out a literal of the same value.
3. `Number.scan?_plainText`: the plain text of a number is a literal without exponent.
4. `Number.toRat_plainLiteral_integer` and `Number.toRat_plainLiteral_float`: its value.
5. `Number.abs_toRat_plainLiteral_float_sub_le`: how far the text of a double is from it.
-/

namespace CloudInventory

namespace NumberLiteral

/-! ## Literals that are written out -/

/-- The characters of a fraction with its point. -/
def fractionChars : Option (List Char) → List Char
  | some digits => '.' :: digits
  | none => []

/-- The characters of a literal without exponent. -/
def spelled (l : NumberLiteral) : List Char :=
  (if l.negative then ['-'] else []) ++ (l.whole ++ fractionChars l.fraction)

/-- A literal without exponent that can be written out. -/
structure IsPlain (l : NumberLiteral) : Prop where
  digits : ∀ c ∈ l.digits, c.isDigit = true
  whole : l.whole = ['0'] ∨ l.whole ≠ [] ∧ l.whole.head? ≠ some '0'
  fraction : l.fraction ≠ some []
  exponent : l.exponent = none

theorem scanWhole?_append {whole rest : List Char} (digits : ∀ c ∈ whole, c.isDigit = true)
    (plain : whole = ['0'] ∨ whole ≠ [] ∧ whole.head? ≠ some '0')
    (ends : Text.Ends Char.isDigit rest) : scanWhole? (whole ++ rest) = some (whole, rest) := by
  rw [scanWhole?, Text.takeWhile_run digits ends, Text.dropWhile_run digits ends]
  rcases plain with rfl | ⟨filled, notZero⟩
  · rfl
  · split
    · exact absurd rfl filled
    · exact absurd rfl notZero
    · exact absurd rfl notZero
    · rfl

/-- A character that a number goes on with. -/
def extendsNumber (c : Char) : Bool :=
  c.isDigit || c == '.' || c == 'e' || c == 'E'

theorem ends_digit {rest : List Char} (ends : Text.Ends extendsNumber rest) :
    Text.Ends Char.isDigit rest :=
  ends.imp fun c digit => by
    rw [extendsNumber, digit, Bool.true_or, Bool.true_or, Bool.true_or]

theorem scanFraction?_append {fraction : Option (List Char)} {rest : List Char}
    (digits : ∀ c ∈ fraction.getD [], c.isDigit = true) (filled : fraction ≠ some [])
    (ends : Text.Ends extendsNumber rest) :
    scanFraction? (fractionChars fraction ++ rest) = some (fraction, rest) := by
  cases fraction with
  | none =>
    rw [fractionChars, List.nil_append, scanFraction?]
    rintro cs rfl
    exact absurd ends.head (by decide)
  | some ds =>
    rw [Option.getD_some] at digits
    rw [fractionChars, List.cons_append, scanFraction?, Text.takeWhile_run digits (ends_digit ends),
      Text.dropWhile_run digits (ends_digit ends)]
    split
    · exact absurd rfl filled
    · rfl

theorem scanExponent?_of_ends {rest : List Char} (ends : Text.Ends extendsNumber rest) :
    scanExponent? rest = some (none, rest) := by
  rw [scanExponent?]
  all_goals
    rintro cs rfl
    exact absurd ends.head (by decide)

theorem IsPlain.whole_ne_nil {l : NumberLiteral} (plain : l.IsPlain) : l.whole ≠ [] := by
  rcases plain.whole with zero | ⟨filled, -⟩
  · rw [zero]
    exact List.cons_ne_nil _ _
  · exact filled

/-- A sign is scanned where there is one: no digit is a sign. -/
theorem scanSign_spelled {l : NumberLiteral} (areDigits : ∀ c ∈ l.digits, c.isDigit = true)
    (filled : l.whole ≠ []) (rest : List Char) :
    scanSign (l.spelled ++ rest) = (l.negative, l.whole ++ (fractionChars l.fraction ++ rest)) := by
  rw [spelled, List.append_assoc, List.append_assoc]
  cases l.negative with
  | true => rfl
  | false =>
    obtain ⟨c, cs, split⟩ := List.exists_cons_of_ne_nil filled
    have digit : c.isDigit = true := by
      apply areDigits
      rw [digits, split]
      exact List.mem_cons_self
    rw [if_neg Bool.false_ne_true, List.nil_append, split, List.cons_append, scanSign]
    rintro _ ⟨⟩
    exact absurd digit (by decide)

/-- A literal that is written out is scanned back from whatever does not go on with it. -/
theorem scan?_spelled_append {l : NumberLiteral} (plain : l.IsPlain) {rest : List Char}
    (ends : Text.Ends extendsNumber rest) : scan? (l.spelled ++ rest) = some (l, rest) := by
  obtain ⟨wholeDigits, fractionDigits⟩ := List.forall_mem_append.1 plain.digits
  have behind : Text.Ends Char.isDigit (fractionChars l.fraction ++ rest) := by
    cases l.fraction with
    | none => exact ends_digit ends
    | some ds => exact Text.ends_cons (by decide) _
  have whole := scanWhole?_append wholeDigits plain.whole behind
  have fraction := scanFraction?_append fractionDigits plain.fraction ends
  simp only [scan?, scanSign_spelled plain.digits plain.whole_ne_nil, whole, fraction,
    scanExponent?_of_ends ends, Option.bind_eq_bind, Option.bind_some, Option.pure_def]
  rw [← plain.exponent]

/-- A literal that is written out is scanned back. -/
theorem scan?_spelled {l : NumberLiteral} (plain : l.IsPlain) : scan? l.spelled = some (l, []) := by
  have scanned := scan?_spelled_append plain (Text.ends_nil extendsNumber)
  rwa [List.append_nil] at scanned

/-- Without an exponent the value follows from the digits and the places of the fraction. -/
theorem magnitude_of_no_exponent {l : NumberLiteral} (none : l.exponent = none) :
    l.magnitude = Text.digitsValue l.digits * 10 ^ (-((l.fraction.getD []).length : Int)) := by
  rw [magnitude, writtenExponent, none, zero_sub]

theorem magnitude_of_digits {l : NumberLiteral} (none : l.exponent = none) {value : Nat}
    {exponent : Int} (digits : Text.digitsValue l.digits = value)
    (places : -((l.fraction.getD []).length : Int) = exponent) :
    l.magnitude = value * 10 ^ exponent := by
  rw [magnitude_of_no_exponent none, digits, places]

theorem magnitude_of_whole {l : NumberLiteral} (noFraction : l.fraction = none)
    (noExponent : l.exponent = none) : l.magnitude = Text.digitsValue l.whole := by
  rw [magnitude_of_no_exponent noExponent, digits, noFraction, Option.getD_none, List.append_nil,
    List.length_nil, Nat.cast_zero, neg_zero, zpow_zero, mul_one]

end NumberLiteral

/-! ## Digits with zeros -/

namespace Text

theorem digitsValue_zeros_append (count : Nat) (ds : List Char) :
    digitsValue (List.replicate count '0' ++ ds) = digitsValue ds := by
  induction count with
  | zero => rfl
  | succ count ih => exact ih

theorem digitsValue_append_zeros (ds : List Char) (count : Nat) :
    digitsValue (ds ++ List.replicate count '0') = digitsValue ds * 10 ^ count := by
  induction count with
  | zero => simp
  | succ count ih =>
    rw [List.replicate_succ', ← List.append_assoc, digitsValue_concat, ih, Nat.pow_succ,
      show '0'.toNat - 48 = 0 from rfl]
    ring

end Text

/-! ## The plain layout -/

namespace Decimal

/-- The literal that the plain layout of a decimal writes out. -/
def plainLiteral (d : Decimal) (negative : Bool) : NumberLiteral :=
  let digits := Text.numeral d.digits
  if d.digits = 0 then ⟨negative, ['0'], none, none⟩
  else if d.wholeDigits ≤ 0 then
    ⟨negative, ['0'], some (List.replicate (-d.wholeDigits).toNat '0' ++ digits), none⟩
  else if digits.length ≤ d.wholeDigits.toNat then
    ⟨negative, digits ++ List.replicate (d.wholeDigits.toNat - digits.length) '0', none, none⟩
  else
    ⟨negative, digits.take d.wholeDigits.toNat, some (digits.drop d.wholeDigits.toNat), none⟩

variable (d : Decimal) (negative : Bool)

theorem spelled_plainLiteral :
    (d.plainLiteral negative).spelled = (if negative then ['-'] else []) ++ d.plain := by
  unfold plainLiteral plain pointed
  simp only
  split
  · rfl
  · split
    · rfl
    · split
      · simp [NumberLiteral.spelled, NumberLiteral.fractionChars]
      · rfl

theorem isPlain_plainLiteral : (d.plainLiteral negative).IsPlain := by
  have areDigits := Text.isDigit_of_mem_numeral (n := d.digits)
  have zeros (count : Nat) : ∀ c ∈ List.replicate count '0', c.isDigit = true :=
    fun c member => (List.mem_replicate.1 member).2 ▸ rfl
  have zero : ∀ c ∈ ['0'], c.isDigit = true := List.forall_mem_singleton.2 rfl
  have filled := Text.numeral_ne_nil d.digits
  unfold plainLiteral
  simp only
  split
  · exact ⟨zero, .inl rfl, nofun, rfl⟩
  next notZero =>
    have first : (Text.numeral d.digits).head? ≠ some '0' :=
      fun same => notZero ((Text.head?_numeral_eq_zero_iff _).1 same)
    split
    · refine ⟨?_, .inl rfl, ?_, rfl⟩
      · exact List.forall_mem_append.2 ⟨zero, List.forall_mem_append.2 ⟨zeros _, areDigits⟩⟩
      · intro empty
        exact filled (List.append_eq_nil_iff.1 (Option.some.inj empty)).2
    next positive =>
      split
      · refine ⟨?_, .inr ⟨?_, ?_⟩, nofun, rfl⟩
        · exact List.forall_mem_append.2
            ⟨List.forall_mem_append.2 ⟨areDigits, zeros _⟩, List.forall_mem_nil _⟩
        · exact List.append_ne_nil_of_left_ne_nil filled _
        · rwa [List.head?_append_of_ne_nil _ filled]
      next long =>
        refine ⟨?_, .inr ⟨?_, ?_⟩, ?_, rfl⟩
        · rw [NumberLiteral.digits, Option.getD_some, List.take_append_drop]
          exact areDigits
        · intro empty
          rcases List.take_eq_nil_iff.1 empty with none | none
          · omega
          · exact filled none
        · rwa [List.head?_take, if_neg (by omega)]
        · intro empty
          have := List.drop_eq_nil_iff.1 (Option.some.inj empty)
          omega

/-- The literal has the value of the decimal. -/
theorem magnitude_plainLiteral : (d.plainLiteral negative).magnitude = d.toRat := by
  have value := Text.digitsValue_numeral d.digits
  have places : d.exponent = d.wholeDigits - (Text.numeral d.digits).length := by
    rw [wholeDigits]
    omega
  unfold plainLiteral
  simp only
  split
  next zero =>
    have nothing : Text.digitsValue ['0'] = 0 := rfl
    rw [NumberLiteral.magnitude_of_whole rfl rfl, nothing, toRat, zero, Nat.cast_zero, zero_mul]
  next notZero =>
    split
    next small =>
      refine NumberLiteral.magnitude_of_digits rfl ?_ ?_
      · show Text.digitsValue
          (List.replicate ((-d.wholeDigits).toNat + 1) '0' ++ Text.numeral d.digits) = d.digits
        rw [Text.digitsValue_zeros_append, value]
      · rw [places, Option.getD_some, List.length_append, List.length_replicate]
        omega
    next positive =>
      split
      next short =>
        have exponent : d.exponent =
            (d.wholeDigits.toNat - (Text.numeral d.digits).length : Nat) := by omega
        rw [NumberLiteral.magnitude_of_whole rfl rfl, Text.digitsValue_append_zeros, value, toRat,
          exponent, zpow_natCast, Nat.cast_mul, Nat.cast_pow, Nat.cast_ofNat]
      next long =>
        refine NumberLiteral.magnitude_of_digits rfl ?_ ?_
        · rw [NumberLiteral.digits, Option.getD_some, List.take_append_drop, value]
        · rw [places, Option.getD_some, List.length_drop]
          omega

theorem toRat_plainLiteral :
    (d.plainLiteral negative).toRat = if negative then -d.toRat else d.toRat := by
  have sign : (d.plainLiteral negative).negative = negative := by
    unfold plainLiteral
    simp only
    split
    · rfl
    · split
      · rfl
      · split <;> rfl
  rw [NumberLiteral.toRat, sign, magnitude_plainLiteral]

end Decimal

/-! ## The plain text of a number -/

namespace Number

def isNegative : Number → Bool
  | .integer value _ => decide (value < 0)
  | .float x => x.negative

/-- The decimal that is shown of a number, without its sign. -/
def shownDecimal : Number → Decimal
  | .integer value _ => ⟨value.natAbs, 0⟩
  | .float x => x.shortest .up

/-- The literal that the plain text of a number is. -/
def plainLiteral (n : Number) : NumberLiteral :=
  n.shownDecimal.plainLiteral n.isNegative

theorem plain_natural (n : Nat) : Decimal.plain ⟨n, 0⟩ = Text.numeral n := by
  unfold Decimal.plain
  split
  next zero =>
    cases zero
    rfl
  next =>
    have length := List.length_pos_iff.2 (Text.numeral_ne_nil n)
    have whole : Decimal.wholeDigits ⟨n, 0⟩ = (Text.numeral n).length := by
      rw [Decimal.wholeDigits, add_zero]
    rw [whole, Decimal.pointed, if_neg (by omega)]
    simp

theorem plainChars_eq (n : Number) : n.plainChars = n.plainLiteral.spelled := by
  rw [plainLiteral, Decimal.spelled_plainLiteral]
  cases n with
  | integer value fits =>
    rw [isNegative, shownDecimal, plain_natural]
    show (Text.signedNumeralText value).toList = _
    rw [Text.toList_signedNumeralText]
    simp only [decide_eq_true_eq]
    split <;> rfl
  | float x => rfl

/-- The plain text of a number is a literal without exponent. -/
theorem scan?_plainText (n : Number) :
    NumberLiteral.scan? n.plainText.toList = some (n.plainLiteral, []) := by
  rw [plainText, String.toList_ofList, plainChars_eq]
  exact NumberLiteral.scan?_spelled (Decimal.isPlain_plainLiteral _ _)

theorem exponent_plainLiteral (n : Number) : n.plainLiteral.exponent = none :=
  (Decimal.isPlain_plainLiteral _ _).exponent

/-- The plain text of an integer stands for it. -/
theorem toRat_plainLiteral_integer (value : Int) (fits : FitsWord value) :
    (Number.integer value fits).plainLiteral.toRat = value := by
  have digits : Decimal.toRat ⟨value.natAbs, 0⟩ = ((value.natAbs : Int) : ℚ) := by
    rw [Decimal.toRat, zpow_zero, mul_one, Int.cast_natCast]
  rw [plainLiteral, Decimal.toRat_plainLiteral, isNegative, shownDecimal, digits]
  simp only [decide_eq_true_eq]
  split
  · rw [← Int.cast_neg]
    congr 1
    omega
  · congr 1
    omega

/-- The plain text of a double stands for its shortest decimal, with its sign. -/
theorem toRat_plainLiteral_float (x : Binary64) :
    (Number.float x).plainLiteral.toRat =
      if x.negative then -(x.shortest .up).toRat else (x.shortest .up).toRat :=
  Decimal.toRat_plainLiteral _ _

theorem abs_toRat_plainLiteral_float (x : Binary64) :
    |(Number.float x).plainLiteral.toRat| = (x.shortest .up).toRat := by
  rw [NumberLiteral.abs_toRat]
  exact Decimal.magnitude_plainLiteral _ _

/-- The plain text of a double is half a unit in the last place away from it at most. -/
theorem abs_toRat_plainLiteral_float_sub_le (x : Binary64) :
    |(Number.float x).plainLiteral.toRat - x.toRat| ≤
      x.magnitude / 2 ^ 53 + Binary64.underflow / 100 := by
  obtain ⟨_, shown⟩ := x.isShortest_shortest
  have near := shown.rounds.abs_sub_magnitude_le.trans x.unit_div_two_le
  rw [toRat_plainLiteral_float, Binary64.toRat]
  split
  · rw [neg_sub_neg, abs_sub_comm]
    exact near
  · exact near

end Number

end CloudInventory
