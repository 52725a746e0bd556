import CloudInventory.Proofs.Json.Lexemes
import CloudInventory.Proofs.Json.PlainText

/-!
# Integer literals

A literal of digits, with a minus sign or none, denotes an integer. An integer of a word is
read as it is, whatever its digits; only minus zero is not, since no integer has its sign.
Any greater literal is read as a double, which is never a small one.

Results:
1. `NumberLiteral.plain_of_parse?`: no number has a zero in front of other digits.
2. `NumberLiteral.value?_of_fits` and `NumberLiteral.value?_of_not_fits`: what an integer
   literal is read as.
3. `Lexeme.all?_signedNumeralText` and `Json.parse?_signedNumeralText`: the digits of an
   integer of a word are read as it, in front of other lexemes and alone.
4. `NumberLiteral.trustedInt?_of_not_fits`: beyond a word the double is no trusted integer.
5. `NumberLiteral.IsIntegral.exists_number`: what an accepted literal is.
-/

namespace CloudInventory

namespace NumberLiteral

/-- The literal of digits with a minus sign or none. -/
def integral (negative : Bool) (digits : List Char) : NumberLiteral :=
  ⟨negative, digits, none, none⟩

/-- The integer that digits with a minus sign or none denote. -/
def signedValue (negative : Bool) (digits : List Char) : Int :=
  if negative then -(Text.digitsValue digits : Int) else Text.digitsValue digits

/-- The text of such a literal. -/
def integralText (negative : Bool) (digits : List Char) : String :=
  String.ofList ((if negative then ['-'] else []) ++ digits)

section

variable {negative : Bool} {digits : List Char}

theorem spelled_integral :
    (integral negative digits).spelled = (if negative then ['-'] else []) ++ digits := by
  rw [spelled]
  exact congrArg _ (List.append_nil digits)

theorem digits_integral : (integral negative digits).digits = digits :=
  List.append_nil digits

theorem toRat_integral :
    (integral negative digits).toRat = (signedValue negative digits : ℚ) := by
  have whole : (integral negative digits).magnitude = Text.digitsValue digits :=
    magnitude_of_whole rfl rfl
  have sign : (integral negative digits).negative = negative := rfl
  rw [toRat, whole, sign, signedValue]
  split
  · rw [Int.cast_neg, Int.cast_natCast]
  · rw [Int.cast_natCast]

/-! ## What is read -/

theorem value?_integral :
    (integral negative digits).value? =
      if (negative && signedValue negative digits == 0) = true then
        (integral negative digits).toFloat?
      else
        match Number.ofInt? (signedValue negative digits) with
        | some n => some n
        | none => (integral negative digits).toFloat? := rfl

/-- An integer of a word is read as it is, but for minus zero. -/
theorem value?_of_fits (fits : FitsWord (signedValue negative digits))
    (notMinusZero : negative = true → signedValue negative digits ≠ 0) :
    (integral negative digits).value? = some (.integer (signedValue negative digits) fits) := by
  have nonzero : ¬ (negative && signedValue negative digits == 0) = true := by
    rw [Bool.and_eq_true, beq_iff_eq]
    exact fun both => notMinusZero both.1 both.2
  have found : Number.ofInt? (signedValue negative digits) =
      some (.integer (signedValue negative digits) fits) := dif_pos fits
  rw [value?_integral, if_neg nonzero, found]

/-- Any other integer is read as a double. -/
theorem value?_of_not_fits (large : ¬ FitsWord (signedValue negative digits)) :
    (integral negative digits).value? = (integral negative digits).toFloat? := by
  have missing : Number.ofInt? (signedValue negative digits) = none := dif_neg large
  rw [value?_integral, missing]
  exact ite_self _

/-! ## Which texts are literals -/

variable (negative) (filled : digits ≠ []) (areDigits : ∀ c ∈ digits, c.isDigit = true)

include filled areDigits

theorem exists_integralText_eq :
    ∃ c cs, (if negative then ['-'] else []) ++ digits = c :: cs ∧
      (c = '-' ∨ c.isDigit = true) := by
  cases negative with
  | true => exact ⟨'-', digits, rfl, .inl rfl⟩
  | false =>
    obtain ⟨c, cs, split⟩ := List.exists_cons_of_ne_nil filled
    refine ⟨c, cs, split, .inr (areDigits c ?_)⟩
    rw [split]
    exact List.mem_cons_self

theorem isPlain_integral (plain : digits = ['0'] ∨ digits.head? ≠ some '0') :
    (integral negative digits).IsPlain where
  digits := by rwa [digits_integral]
  whole := plain.imp_right fun notZero => ⟨filled, notZero⟩
  fraction := nofun
  exponent := rfl

/-- A literal without zeros in front is read as the number that it denotes. -/
theorem parse?_integralText (plain : digits = ['0'] ∨ digits.head? ≠ some '0') :
    Json.parse? (integralText negative digits) =
      (integral negative digits).value?.map .number := by
  obtain ⟨c, cs, split, start⟩ := exists_integralText_eq negative filled areDigits
  have scanned := scan?_spelled (isPlain_integral negative filled areDigits plain)
  rw [spelled_integral, split] at scanned
  rw [integralText, split]
  exact Json.parse?_of_literal start scanned

/-- A zero in front of other digits starts no number. -/
theorem scan?_of_leading_zero (zero : digits.head? = some '0') (more : digits ≠ ['0']) :
    scan? ((if negative then ['-'] else []) ++ digits) = none := by
  have sign := scanSign_spelled (l := integral negative digits)
    (by rwa [digits_integral]) filled []
  rw [List.append_nil, spelled_integral] at sign
  have whole : scanWhole? digits = none := by
    have taken : digits.takeWhile Char.isDigit = digits := List.takeWhile_eq_self_iff.2 areDigits
    obtain ⟨_, rest, rfl⟩ := List.exists_cons_of_ne_nil filled
    cases zero
    rw [scanWhole?, taken]
    split
    · rfl
    next alone => exact absurd alone more
    · rfl
    next notZero => exact (notZero rest rfl).elim
  rw [scan?, sign]
  simp only [integral, fractionChars, List.append_nil, whole, Option.bind_eq_bind,
    Option.bind_none]

/-- What is read as a number has no zero in front of other digits. -/
theorem plain_of_parse? {json : Json}
    (accepted : Json.parse? (integralText negative digits) = some json) :
    digits = ['0'] ∨ digits.head? ≠ some '0' := by
  by_contra zeros
  obtain ⟨more, zero⟩ := not_or.1 zeros
  obtain ⟨c, cs, split, start⟩ := exists_integralText_eq negative filled areDigits
  have missing :=
    scan?_of_leading_zero negative filled areDigits (not_not.1 zero) more
  rw [split] at missing
  rw [integralText, split, Json.parse?_of_no_literal start missing] at accepted
  cases accepted

/-- Minus zero has no other form than the sign before one zero. -/
theorem signedValue_ne_zero (plain : digits = ['0'] ∨ digits.head? ≠ some '0')
    (notZero : digits ≠ ['0']) : signedValue negative digits ≠ 0 := by
  have written : Text.numeral (Text.digitsValue digits) = digits :=
    Text.numeral_digitsValue filled areDigits
      fun zero => absurd zero (plain.resolve_left notZero)
  have positive : Text.digitsValue digits ≠ 0 := by
    intro none
    rw [none] at written
    exact notZero written.symm
  unfold signedValue
  split <;> omega

end

/-! ## Beyond a word -/

/-- An integer beyond a word is read as a double, and the double is no trusted integer. -/
theorem trustedInt?_of_not_fits {negative : Bool} {digits : List Char} {n : Number}
    (areDigits : ∀ c ∈ digits, c.isDigit = true)
    (large : ¬ FitsWord (signedValue negative digits))
    (denoted : (integral negative digits).value? = some n) :
    ∃ x, n = .float x ∧ x.trustedInt? = none := by
  rw [value?_of_not_fits large] at denoted
  obtain ⟨x, -, float⟩ := toFloat?_eq_some_iff.1 denoted
  refine ⟨_, float, ?_⟩
  have near := abs_toFloat?_sub_le (by rwa [digits_integral]) denoted
  rw [float, toRat_integral] at near
  generalize x.withSign (integral negative digits).negative = y at near ⊢
  have beyond : (2 ^ 63 : ℚ) ≤ |(signedValue negative digits : ℚ)| := by
    have : 2 ^ 63 ≤ |signedValue negative digits| := by
      unfold FitsWord at large
      rw [le_abs]
      omega
    exact_mod_cast this
  have tiny := Binary64.underflow_le
  rw [Option.eq_none_iff_forall_ne_some]
  intro value trusted
  -- The double would be a small integer, but one rounding keeps a literal of this size large.
  have small : |(value : ℚ)| ≤ 2 ^ 53 := by
    have := Binary64.natAbs_le_of_trustedInt? trusted
    rw [← Int.cast_abs, Int.abs_eq_natAbs, Int.cast_natCast]
    exact_mod_cast this
  rw [show (Number.float y).toRat = y.toRat from rfl, Binary64.toRat_of_trustedInt? trusted] at near
  have apart := abs_sub_abs_le_abs_sub (signedValue negative digits : ℚ) value
  rw [abs_sub_comm] at apart
  have : (1 : ℚ) / 10 ^ 100 ≤ 1 := by norm_num
  linarith

/-! ## What is accepted -/

/-- The text is a literal of the integer, digits with a minus sign or none, and it is not
minus zero. -/
def IsIntegral (text : String) (n : Int) : Prop :=
  ∃ negative digits, text = integralText negative digits ∧ digits ≠ [] ∧
    (∀ c ∈ digits, c.isDigit = true) ∧ ¬ (negative = true ∧ digits = ['0']) ∧
    signedValue negative digits = n

/-- A literal that is accepted is the integer, or a double that is no trusted integer if no
word has it. -/
theorem IsIntegral.exists_number {text : String} {n : Int} {json : Json}
    (literal : IsIntegral text n) (accepted : Json.parse? text = some json) :
    ∃ number : Number, json = .number number ∧
      ((∃ fits, number = .integer n fits) ∨
        ¬ FitsWord n ∧ ∃ x : Binary64, number = .float x ∧ x.trustedInt? = none) := by
  obtain ⟨negative, digits, rfl, filled, areDigits, notMinusZero, rfl⟩ := literal
  have plain := plain_of_parse? negative filled areDigits accepted
  rw [parse?_integralText negative filled areDigits plain] at accepted
  obtain ⟨number, denoted, rfl⟩ := Option.map_eq_some_iff.1 accepted
  refine ⟨number, rfl, ?_⟩
  by_cases fits : FitsWord (signedValue negative digits)
  · have nonzero (sign : negative = true) : signedValue negative digits ≠ 0 :=
      signedValue_ne_zero negative filled areDigits plain
        fun zero => notMinusZero ⟨sign, zero⟩
    rw [value?_of_fits fits nonzero] at denoted
    exact .inl ⟨fits, (Option.some.inj denoted).symm⟩
  · exact .inr ⟨fits, trustedInt?_of_not_fits areDigits fits denoted⟩

end NumberLiteral

/-! ## The literal of an integer -/

namespace NumberLiteral

/-- The literal that an integer is written as. -/
def ofInt (n : Int) : NumberLiteral :=
  integral (decide (n < 0)) (Text.numeral n.natAbs)

variable (n : Int)

theorem plain_numeral (m : Nat) :
    Text.numeral m = ['0'] ∨ (Text.numeral m).head? ≠ some '0' := by
  by_cases zero : m = 0
  · exact .inl (by rw [zero]; rfl)
  · exact .inr (mt (Text.head?_numeral_eq_zero_iff _).1 zero)

theorem isPlain_ofInt : (ofInt n).IsPlain :=
  isPlain_integral _ (Text.numeral_ne_nil _) Text.isDigit_of_mem_numeral (plain_numeral _)

theorem signedNumeralText_eq :
    Text.signedNumeralText n = integralText (decide (n < 0)) (Text.numeral n.natAbs) := by
  unfold Text.signedNumeralText integralText
  simp only [decide_eq_true_eq]
  split <;> rfl

theorem spelled_ofInt : (ofInt n).spelled = (Text.signedNumeralText n).toList := by
  rw [signedNumeralText_eq, integralText, String.toList_ofList]
  exact spelled_integral

theorem signedValue_numeral :
    signedValue (decide (n < 0)) (Text.numeral n.natAbs) = n := by
  unfold signedValue
  rw [Text.digitsValue_numeral]
  simp only [decide_eq_true_eq]
  split <;> omega

variable {n}

/-- The literal of an integer of a word denotes the integer. -/
theorem value?_ofInt (fits : FitsWord n) : (ofInt n).value? = some (.integer n fits) := by
  have value := signedValue_numeral n
  have notMinusZero (negative : decide (n < 0) = true) :
      signedValue (decide (n < 0)) (Text.numeral n.natAbs) ≠ 0 := by
    rw [value]
    exact Int.ne_of_lt (of_decide_eq_true negative)
  rw [ofInt, value?_of_fits (by rwa [value]) notMinusZero]
  simp only [value]

end NumberLiteral

/-- The digits of an integer of a word are one lexeme, whatever stands behind them that is no
part of a number. -/
theorem Lexeme.all?_signedNumeralText {n : Int} (fits : FitsWord n) {rest : List Char}
    (ends : Text.Ends NumberLiteral.extendsNumber rest) :
    all? ((Text.signedNumeralText n).toList ++ rest) =
      (all? rest).map (.atom (.number (.integer n fits)) :: ·) := by
  obtain ⟨c, cs, split, start⟩ := NumberLiteral.exists_integralText_eq (decide (n < 0))
    (Text.numeral_ne_nil n.natAbs) Text.isDigit_of_mem_numeral
  have chars : (Text.signedNumeralText n).toList = c :: cs := by
    rw [NumberLiteral.signedNumeralText_eq, NumberLiteral.integralText, String.toList_ofList, split]
  have scanned := NumberLiteral.scan?_spelled_append (NumberLiteral.isPlain_ofInt n) ends
  rw [NumberLiteral.spelled_ofInt, chars, List.cons_append] at scanned
  rw [chars, List.cons_append]
  refine all?_cons_of_scan? (Json.isSpace_of_number start) ?_
  rw [scan?_number start, scanned, Option.bind_some]
  simp only [NumberLiteral.value?_ofInt fits, Option.map_some]

namespace Json

/-- The digits of an integer of a word are read as that integer. -/
theorem parse?_signedNumeralText {n : Int} (fits : FitsWord n) :
    parse? (Text.signedNumeralText n) = some (.number (.integer n fits)) := by
  have lexemes := Lexeme.all?_signedNumeralText fits (Text.ends_nil _)
  rw [List.append_nil, Lexeme.all?, Option.map_some] at lexemes
  rw [parse?, lexemes]
  rfl

/-- An integer is read back from its text. -/
theorem parse?_compact_integer {n : Int} (fits : FitsWord n) :
    parse? (compact (.number (.integer n fits))) = some (.number (.integer n fits)) := by
  have text : compact (.number (.integer n fits)) = Text.signedNumeralText n :=
    String.ofList_toList
  rw [text, parse?_signedNumeralText fits]

end Json

end CloudInventory
