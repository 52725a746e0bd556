import CloudInventory.Proofs.Json.LiteralValue
import CloudInventory.Scalar.Integer
import CloudInventory.Scalar.Magnitude

/-!
# Integers carried by doubles

The coders take an integer from a double that is whole and at most `2 ^ 53` in size.
The test sees the double alone, after the literal has been rounded to it, so it does not
tell a literal that is carried from one that is rounded onto a whole double.

Results:
1. `Scalar.ReadsAs.trustedInt?`: what a coder reads is the trusted integer of the double.
2. `Scalar.readsAs_literal`: that is the value of the literal if its digits are those of
   a number below `2 ^ 53` and it is not read as zero, and it is near the value
   otherwise. Literals of such digits that stand for a small integer are read.
3. `Scalar.rounded_literals_read`: literals that stand for no integer are read as one.
-/

namespace CloudInventory

/-! ## Types of fixed width -/

/-- The integer of a value is the one it was made from. -/
class LawfulFixedWidth (α : Type) [FixedWidth α] : Prop where
  toInt_of_ofInt? {value : Int} {a : α} :
    FixedWidth.ofInt? value = some a → FixedWidth.toInt a = value

namespace FixedWidth

/-- An unsigned value is made from its own integer. -/
theorem toNat_of_unsigned {α : Type} {size : Nat} {make : Nat → α} {toNat : α → Nat}
    (read : ∀ n < size, toNat (make n) = n) {value : Int} {a : α}
    (made : unsigned size make value = some a) : (toNat a : Int) = value := by
  unfold unsigned at made
  split at made
  next inRange =>
    cases made
    rw [read _ (by omega)]
    exact Int.toNat_of_nonneg inRange.1
  next => cases made

instance : LawfulFixedWidth UInt8 :=
  ⟨toNat_of_unsigned fun _ below => UInt8.toNat_ofNat_of_lt' below⟩

instance : LawfulFixedWidth UInt16 :=
  ⟨toNat_of_unsigned fun _ below => UInt16.toNat_ofNat_of_lt' below⟩

instance : LawfulFixedWidth UInt32 :=
  ⟨toNat_of_unsigned fun _ below => UInt32.toNat_ofNat_of_lt' below⟩

instance : LawfulFixedWidth UInt64 :=
  ⟨toNat_of_unsigned fun _ below => UInt64.toNat_ofNat_of_lt' below⟩

instance : LawfulFixedWidth Int32 where
  toInt_of_ofInt? made := by
    obtain ⟨inRange, same⟩ := Option.ite_none_right_eq_some.1 made
    cases same
    exact Int32.toInt_ofInt_of_le inRange.1 inRange.2

instance : LawfulFixedWidth Int64 where
  toInt_of_ofInt? made := by
    obtain ⟨inRange, same⟩ := Option.ite_none_right_eq_some.1 made
    cases same
    exact Int64.toInt_ofInt_of_le inRange.1 inRange.2

end FixedWidth

namespace Scalar

/-! ## Reading a number -/

/-- One of the coders yields the integer for a scalar. -/
inductive ReadsAs (s : Scalar) : Int → Prop where
  | magnitude {m : Magnitude} (read : Magnitude.ofScalar s = .ok m) : ReadsAs s m.value
  | bounded {α : Type} [FixedWidth α] [LawfulFixedWidth α] {field : String} {value : α}
      (read : toBounded α field s = .ok value) : ReadsAs s (FixedWidth.toInt value)

theorem trustedInt?_of_ofScalar {x : Binary64} {m : Magnitude}
    (read : Magnitude.ofScalar (.number (.float x)) = .ok m) :
    x.trustedInt? = some (m.value : Int) := by
  simp only [Magnitude.ofScalar] at read
  split at read
  next value sign trusted =>
    cases read
    have nonneg : (0 : ℚ) ≤ value := by
      rw [← Binary64.toRat_of_trustedInt? trusted, Binary64.toRat, sign]
      exact x.magnitude_nonneg
    rw [trusted, Int.toNat_of_nonneg (by exact_mod_cast nonneg)]
  next => cases read

theorem trustedInt?_of_toBounded {α : Type} [FixedWidth α] [LawfulFixedWidth α] {field : String}
    {x : Binary64} {value : α} (read : toBounded α field (.number (.float x)) = .ok value) :
    x.trustedInt? = some (FixedWidth.toInt value) := by
  rw [toBounded] at read
  split at read
  next found =>
    cases read
    obtain ⟨wide, narrow, made⟩ := Option.bind_eq_some_iff.1 found
    rw [LawfulFixedWidth.toInt_of_ofInt? made]
    exact (Option.filter_eq_some_iff.1 narrow).1
  next => cases read

/-- Every coder takes the trusted integer of a double. -/
theorem ReadsAs.trustedInt? {x : Binary64} {value : Int}
    (accepted : ReadsAs (.number (.float x)) value) : x.trustedInt? = some value := by
  cases accepted with
  | magnitude read => exact trustedInt?_of_ofScalar read
  | bounded read => exact trustedInt?_of_toBounded read

theorem ofScalar_of_trustedInt? {x : Binary64} {value : Int} (sign : x.negative = false)
    (trusted : x.trustedInt? = some value) :
    Magnitude.ofScalar (.number (.float x)) = .ok ⟨value.toNat⟩ := by
  simp only [Magnitude.ofScalar, sign, trusted]

theorem toBounded_of_trustedInt? {α : Type} [FixedWidth α] {x : Binary64} {value : Int} {a : α}
    (field : String) (trusted : x.trustedInt? = some value)
    (made : FixedWidth.ofInt? value = some a) :
    toBounded α field (.number (.float x)) = .ok a := by
  have small := Binary64.natAbs_le_of_trustedInt? trusted
  have inRange : (-0x8000000000000000 ≤ value && value < 0x8000000000000000 : Bool) = true := by
    rw [Bool.and_eq_true, decide_eq_true_eq, decide_eq_true_eq]
    omega
  have word : toInt64? (.number (.float x)) = some value :=
    Option.filter_eq_some_iff.2 ⟨trusted, inRange⟩
  rw [toBounded, word, Option.bind_some, made]

/-- What the coders make of a literal with a fraction or an exponent. An integer that one
of them reads is the exact value of the double. It is the literal's own value if the
digits are those of a number below `2 ^ 53` and the integer is not zero, and in every case
it is one part in `2 ^ 51` and `10 ^ -288` away from it at most. And where such digits
stand for an integer of at most `2 ^ 53` in size, every coder that has it reads it. -/
theorem readsAs_literal {text rest : List Char} {literal : NumberLiteral} {n : Number}
    (scanned : NumberLiteral.scan? text = some (literal, rest))
    (fractional : literal.fraction ≠ none ∨ literal.exponent ≠ none)
    (denoted : literal.value? = some n) :
    (∀ value : Int, ReadsAs (.number n) value →
      n.toRat = value ∧
        (Text.digitsValue literal.digits < 2 ^ 53 → literal.toRat = value ∨ value = 0) ∧
        |value - literal.toRat| ≤ |literal.toRat| / 2 ^ 51 + 1 / 10 ^ 288) ∧
      ∀ value : Int, Text.digitsValue literal.digits < 2 ^ 53 → value.natAbs ≤ 2 ^ 53 →
        literal.toRat = value →
        (literal.negative = false → Magnitude.ofScalar (.number n) = .ok ⟨value.toNat⟩) ∧
          ∀ (α : Type) [FixedWidth α] (field : String) (a : α),
            FixedWidth.ofInt? value = some a → toBounded α field (.number n) = .ok a := by
  rw [NumberLiteral.value?_of_fractional fractional] at denoted
  have areDigits := NumberLiteral.isDigit_of_scan? scanned
  obtain ⟨x, -, float⟩ := NumberLiteral.toFloat?_eq_some_iff.1 denoted
  constructor
  · intro value accepted
    rw [float] at accepted
    have trusted := accepted.trustedInt?
    have small := Binary64.natAbs_le_of_trustedInt? trusted
    have carried : n.toRat = value := by
      rw [float]
      exact Binary64.toRat_of_trustedInt? trusted
    refine ⟨carried, fun short => NumberLiteral.toFloat?_of_short short small denoted carried, ?_⟩
    rw [← carried]
    exact NumberLiteral.abs_toFloat?_sub_le areDigits denoted
  · intro value short small written
    have carried := NumberLiteral.toRat_of_toFloat? short small denoted written
    rw [float] at carried ⊢
    have trusted := Binary64.trustedInt?_of_toRat carried small
    exact ⟨fun sign => ofScalar_of_trustedInt? sign trusted,
      fun α _ field a made => toBounded_of_trustedInt? field trusted made⟩

/-- Two kibibytes with a fraction are read as they are written, and as nothing else. -/
theorem readsAs_literal_kibibytes :
    ∃ (literal : NumberLiteral) (n : Number),
      NumberLiteral.scan? "2048.0".toList = some (literal, []) ∧ literal.fraction ≠ none ∧
        literal.value? = some n ∧ Magnitude.ofScalar (.number n) = .ok ⟨2048⟩ ∧
        toBounded UInt16 "memory" (.number n) = .ok 2048 ∧
        ∀ value : Int, ReadsAs (.number n) value → value = 2048 := by
  have scanned : NumberLiteral.scan? "2048.0".toList =
      some (⟨false, ['2', '0', '4', '8'], some ['0'], none⟩, []) := by decide
  have denoted : NumberLiteral.value? ⟨false, ['2', '0', '4', '8'], some ['0'], none⟩ =
      some (.float ⟨false, 2 ^ 52, -41, by decide, by decide, by decide, by decide⟩) := by
    decide
  have fractional : (some ['0'] : Option (List Char)) ≠ none := by decide
  have written : NumberLiteral.toRat ⟨false, ['2', '0', '4', '8'], some ['0'], none⟩ =
      (20480 : Nat) * 10 ^ (-1 : Int) := rfl
  obtain ⟨only, reads⟩ := readsAs_literal scanned (.inl fractional) denoted
  obtain ⟨magnitude, bounded⟩ := reads 2048 (by decide) (by decide) (by rw [written]; norm_num)
  refine ⟨_, _, scanned, fractional, denoted, magnitude rfl,
    bounded UInt16 "memory" 2048 (by decide), fun value accepted => ?_⟩
  have own := (only 2048 (.magnitude (magnitude rfl))).1
  exact Int.cast_injective ((only value accepted).1.symm.trans own)

/-- Half above the greatest trusted integer and next below one: the double of either
literal is whole, and both are read as an integer that they are not. -/
theorem rounded_literals_read :
    (∃ (literal : NumberLiteral) (n : Number),
      NumberLiteral.scan? "9007199254740992.5".toList = some (literal, []) ∧
        literal.value? = some n ∧
        Magnitude.ofScalar (.number n) = .ok ⟨9007199254740992⟩ ∧
        toBounded Int64 "size" (.number n) = .ok 9007199254740992 ∧
        literal.toRat ≠ 9007199254740992) ∧
      ∃ (literal : NumberLiteral) (n : Number),
        NumberLiteral.scan? "0.99999999999999999".toList = some (literal, []) ∧
          literal.value? = some n ∧ toBounded UInt8 "cpu" (.number n) = .ok 1 ∧
          literal.toRat ≠ 1 := by
  constructor
  · refine ⟨⟨false, "9007199254740992".toList, some ['5'], none⟩,
      .float ⟨false, 2 ^ 52, 1, by decide, by decide, by decide, by decide⟩,
      by decide, by decide, by decide, by decide, ?_⟩
    have written : NumberLiteral.toRat ⟨false, "9007199254740992".toList, some ['5'], none⟩ =
        (90071992547409925 : Nat) * 10 ^ (-1 : Int) := rfl
    rw [written]
    norm_num
  · refine ⟨⟨false, ['0'], some "99999999999999999".toList, none⟩,
      .float ⟨false, 2 ^ 52, -52, by decide, by decide, by decide, by decide⟩,
      by decide, by decide, by decide, ?_⟩
    have written : NumberLiteral.toRat ⟨false, ['0'], some "99999999999999999".toList, none⟩ =
        (99999999999999999 : Nat) * 10 ^ (-17 : Int) := rfl
    rw [written]
    norm_num

end Scalar

end CloudInventory
