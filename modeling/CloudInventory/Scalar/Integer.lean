import CloudInventory.Scalar.Basic
import CloudInventory.Text.Blank

/-!
# Bounded integers

Fields such as a clock frequency or a boot order hold an integer of fixed width.
Every encoding is first read as a signed word of 64 bits and then narrowed; what
falls outside either range is an error that names the field.
-/

namespace CloudInventory

/-- An integer type of fixed width, as a range of the integers. -/
class FixedWidth (α : Type) where
  /-- The value with the given integer, if the type has one. -/
  ofInt? : Int → Option α
  toInt : α → Int

namespace FixedWidth

/-- The value that `make` yields for an integer of an unsigned range. -/
def unsigned (size : Nat) {α : Type} (make : Nat → α) (value : Int) : Option α :=
  if 0 ≤ value ∧ value < size then some (make value.toNat) else none

instance : FixedWidth UInt8 := ⟨unsigned UInt8.size UInt8.ofNat, fun n => n.toNat⟩
instance : FixedWidth UInt16 := ⟨unsigned UInt16.size UInt16.ofNat, fun n => n.toNat⟩
instance : FixedWidth UInt32 := ⟨unsigned UInt32.size UInt32.ofNat, fun n => n.toNat⟩
instance : FixedWidth UInt64 := ⟨unsigned UInt64.size UInt64.ofNat, fun n => n.toNat⟩

instance : FixedWidth Int32 where
  ofInt? value :=
    if -0x80000000 ≤ value ∧ value < 0x80000000 then some (Int32.ofInt value) else none
  toInt := Int32.toInt

instance : FixedWidth Int64 where
  ofInt? value :=
    if -0x8000000000000000 ≤ value ∧ value < 0x8000000000000000 then some (Int64.ofInt value)
    else none
  toInt := Int64.toInt

end FixedWidth

namespace Scalar

/-- The integer in the range of a signed word that a scalar stands for. -/
def toInt64? (s : Scalar) : Option Int :=
  let value : Option Int := match s with
    | .text written => Text.readSigned? (Text.trim written.toList)
    | .number (.integer value _) => some value
    | .number (.float x) => x.trustedInt?
  value.filter fun value =>
    decide (-0x8000000000000000 ≤ value) && decide (value < 0x8000000000000000)

/-- The integer of a field. -/
def toBounded (α : Type) [FixedWidth α] (field : String) (s : Scalar) : Except DecodeError α :=
  match s.toInt64?.bind FixedWidth.ofInt? with
  | some value => .ok value
  | none => .error (.integer field s.plainText)

end Scalar

end CloudInventory
