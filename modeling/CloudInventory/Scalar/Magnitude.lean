import CloudInventory.Scalar.Basic
import CloudInventory.Text.Blank

/-!
# Magnitudes

A natural number of any size: bytes, units, counts. Records carry it as a decimal
numeral or as a number; a fraction, a sign or a rounded double is an error, never
a nearby value.
-/

namespace CloudInventory

/-- A natural number of bytes, units or occurrences. -/
structure Magnitude where
  value : Nat
  deriving DecidableEq, Repr

namespace Magnitude

instance : Inhabited Magnitude := ⟨⟨0⟩⟩

/-- The magnitude of a decimal numeral, blanks around it ignored. -/
def parse (text : String) : Except DecodeError Magnitude :=
  match Text.readNumeral? (Text.trim text.toList) with
  | some n => .ok ⟨n⟩
  | none => .error (.magnitude text)

/-- The magnitude that a scalar stands for. -/
def ofScalar (s : Scalar) : Except DecodeError Magnitude :=
  match s with
  | .text text => parse text
  | .number (.integer value _) =>
    if 0 ≤ value then .ok ⟨value.toNat⟩ else .error (.magnitude s.plainText)
  | .number (.float x) =>
    match x.negative, x.trustedInt? with
    | false, some value => .ok ⟨value.toNat⟩
    | _, _ => .error (.magnitude s.plainText)

/-- The decimal numeral. -/
def text (m : Magnitude) : String :=
  Text.numeralText m.value

/-- The value as a word, when it fits. -/
def toUInt64? (m : Magnitude) : Option UInt64 :=
  if m.value < UInt64.size then some (UInt64.ofNat m.value) else none

def isZero (m : Magnitude) : Bool :=
  m.value == 0

/-- The length of the binary numeral; zero has none. -/
def bitLength (m : Magnitude) : Nat :=
  if m.value = 0 then 0 else m.value.log2 + 1

/-- The form in records: always a decimal numeral. -/
def toJson (m : Magnitude) : Json :=
  .string m.text

/-- The form in requests: a number when it fits a word, a numeral otherwise. -/
def toRequest (m : Magnitude) : Json :=
  ((Number.ofInt? m.value).map .number).getD (.string m.text)

end Magnitude

end CloudInventory
