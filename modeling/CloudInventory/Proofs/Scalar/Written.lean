import CloudInventory.Scalar.Integer
import CloudInventory.Scalar.Magnitude
import CloudInventory.Proofs.Text.Trim

/-!
# Reading written scalars

Sizes and integers are read back from the form in which requests carry them.

Results:
1. `Magnitude.ofScalar_toRequest`: a magnitude is read back on both sides of the
   greatest word.
2. `Scalar.toBounded_ofUInt32` and `Scalar.toBounded_ofInt32`: so is an integer of
   fixed width.
-/

namespace CloudInventory

namespace Magnitude

/-- The numeral of a magnitude denotes it. -/
theorem parse_text (m : Magnitude) : parse m.text = .ok m := by
  have visible := Text.trim_of_visible (Text.visible_numeral m.value)
  rw [parse, text, Text.numeralText, String.toList_ofList, visible, Text.readNumeral?_numeral]

/-- A magnitude that fits a word goes out as a number. -/
theorem toRequest_of_fits {m : Magnitude} (fits : FitsWord m.value) :
    m.toRequest = .number (.integer m.value fits) := by
  have number : Number.ofInt? m.value = some (.integer m.value fits) := dif_pos fits
  rw [toRequest, number, Option.map_some, Option.getD_some]

theorem toRequest_of_not_fits {m : Magnitude} (large : ¬ FitsWord m.value) :
    m.toRequest = .string m.text := by
  have number : Number.ofInt? m.value = none := dif_neg large
  rw [toRequest, number, Option.map_none, Option.getD_none]

/-- The request form is a scalar that stands for the magnitude. -/
theorem ofScalar_toRequest (m : Magnitude) :
    ∃ s : Scalar, m.toRequest = s.toJson ∧ ofScalar s = .ok m := by
  -- A number on one side of the greatest word, a numeral on the other.
  by_cases fits : FitsWord m.value
  · refine ⟨.number (.integer m.value fits), toRequest_of_fits fits, ?_⟩
    have nonneg : 0 ≤ (m.value : Int) := Int.natCast_nonneg m.value
    rw [ofScalar, if_pos nonneg, Int.toNat_natCast]
  · exact ⟨.text m.text, toRequest_of_not_fits fits, parse_text m⟩

end Magnitude

namespace Scalar

/-- A value of fixed width is read back from the number of its integer. -/
theorem toBounded_integer {α : Type} [FixedWidth α] {value : α} {n : Int} {fits : FitsWord n}
    (field : String) (above : -0x8000000000000000 ≤ n) (below : n < 0x8000000000000000)
    (found : FixedWidth.ofInt? n = some value) :
    toBounded α field (.number (.integer n fits)) = .ok value := by
  have inRange : (-0x8000000000000000 ≤ n && n < 0x8000000000000000 : Bool) = true := by
    rw [Bool.and_eq_true, decide_eq_true_eq, decide_eq_true_eq]
    exact ⟨above, below⟩
  have word : toInt64? (.number (.integer n fits)) = some n := by
    rw [toInt64?]
    exact Option.filter_some_pos inRange
  rw [toBounded, word, Option.bind_some, found]

theorem toBounded_ofUInt32 (field : String) (value : UInt32) :
    toBounded UInt32 field (.number (.ofUInt32 value)) = .ok value := by
  have small := value.toNat_lt
  have found : FixedWidth.ofInt? (value.toNat : Int) = some value := by
    show FixedWidth.unsigned UInt32.size UInt32.ofNat value.toNat = some value
    have inRange : 0 ≤ (value.toNat : Int) ∧ (value.toNat : Int) < UInt32.size := by
      have : UInt32.size = 4294967296 := rfl
      omega
    rw [FixedWidth.unsigned, if_pos inRange, Int.toNat_natCast, UInt32.ofNat_toNat]
  exact toBounded_integer field (by omega) (by omega) found

theorem toBounded_ofInt32 (field : String) (value : Int32) :
    toBounded Int32 field (.number (.ofInt32 value)) = .ok value := by
  have above := value.le_toInt
  have below := value.toInt_lt
  have found : FixedWidth.ofInt? value.toInt = some value := by
    have inRange : -0x80000000 ≤ value.toInt ∧ value.toInt < 0x80000000 := by omega
    show (if -0x80000000 ≤ value.toInt ∧ value.toInt < 0x80000000 then
      some (Int32.ofInt value.toInt) else none) = some value
    rw [if_pos inRange, Int32.ofInt_toInt]
  exact toBounded_integer field (by omega) (by omega) found

end Scalar

end CloudInventory
