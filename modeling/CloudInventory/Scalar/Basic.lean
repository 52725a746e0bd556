import CloudInventory.Decode.Error

/-!
# Scalars

Sizes, amounts and identifiers come either as JSON numbers or as text. A scalar
keeps what came, so that each field can be read by its own rule and an error can
quote it.
-/

namespace CloudInventory

/-- A number, or text in the place of one. -/
inductive Scalar where
  | number (value : Number)
  | text (value : String)
  deriving DecidableEq

namespace Scalar

/-- The scalar as text: numbers in plain notation, text as it is. -/
def plainText : Scalar → String
  | .number n => n.plainText
  | .text s => s

/-- The scalar that a JSON value is. -/
def ofJson? : Json → Option Scalar
  | .number n => some (.number n)
  | .string s => some (.text s)
  | _ => none

/-- The JSON value that a scalar is. -/
def toJson : Scalar → Json
  | .number n => .number n
  | .text s => .string s

theorem ofJson?_toJson (s : Scalar) : ofJson? s.toJson = some s := by
  cases s <;> rfl

end Scalar

namespace Binary64

/-- The greatest magnitude at which a whole double is trusted. Integer literals
beyond 64 bits arrive as doubles that have been rounded; all of them are greater. -/
def maxTrusted : Nat := 0x20000000000000

/-- The exact value of a whole double of trusted magnitude. -/
def trustedInt? (x : Binary64) : Option Int :=
  x.toInt?.filter fun value => decide (value.natAbs ≤ maxTrusted)

end Binary64

end CloudInventory
