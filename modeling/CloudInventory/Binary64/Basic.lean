/-!
# Finite binary64 numbers

A finite IEEE 754 double is `± significand · 2 ^ exponent` with a significand of
at most 53 bits. The type holds the one canonical form of each value, so equality
is equality of bits, and every operation is computed exactly over the natural
numbers and rounded once, to nearest with ties to even.
-/

namespace CloudInventory

/-- Two to a power. -/
def twoPow (n : Nat) : Nat :=
  Nat.pow 2 n

/-- Ten to a power. -/
def tenPow (n : Nat) : Nat :=
  Nat.pow 10 n

/-- A finite double in canonical form: the significand is below `2 ^ 53`, and only
the lowest exponent admits one below `2 ^ 52`. Zero has a sign. -/
structure Binary64 where
  negative : Bool
  significand : Nat
  exponent : Int
  significand_lt : significand < 0x20000000000000
  exponent_ge : -1074 ≤ exponent
  exponent_le : exponent ≤ 971
  normal : exponent = -1074 ∨ 0x10000000000000 ≤ significand
  deriving DecidableEq

namespace Binary64

/-- The double with the given parts; `none` unless they are canonical. -/
def ofParts? (negative : Bool) (significand : Nat) (exponent : Int) : Option Binary64 :=
  if h : significand < 0x20000000000000 ∧ -1074 ≤ exponent ∧ exponent ≤ 971 ∧
      (exponent = -1074 ∨ 0x10000000000000 ≤ significand) then
    some ⟨negative, significand, exponent, h.1, h.2.1, h.2.2.1, h.2.2.2⟩
  else
    none

/-- Zero of either sign. -/
def zero (negative : Bool) : Binary64 :=
  ⟨negative, 0, -1074, by decide, by decide, by decide, .inl rfl⟩

def isZero (x : Binary64) : Bool :=
  x.significand == 0

/-- The same magnitude with the given sign. -/
def withSign (x : Binary64) (negative : Bool) : Binary64 :=
  { x with negative }

/-! ## Rounding -/

/-- The natural number nearest to `num / den`; of two equally near ones the even one. -/
def nearestQuotient (num den : Nat) : Nat :=
  let quotient := num / den
  let twice := 2 * (num % den)
  if twice < den then quotient
  else if den < twice then quotient + 1
  else if quotient % 2 = 0 then quotient
  else quotient + 1

/-- The greatest `k` with `2 ^ k ≤ num / den`, for positive `num` and `den`. -/
def ratioLog2 (num den : Nat) : Int :=
  let estimate : Int := (num.log2 : Int) - (den.log2 : Int)
  if den * twoPow estimate.toNat ≤ num * twoPow (-estimate).toNat then estimate
  else estimate - 1

/-- The significand and exponent of the double nearest to `num / den`, for
positive `num` and `den`. The exponent may lie above the range. -/
def nearestParts (num den : Nat) : Nat × Int :=
  let exponent := max (ratioLog2 num den - 52) (-1074)
  let significand := nearestQuotient (num * twoPow (-exponent).toNat) (den * twoPow exponent.toNat)
  if significand = 0x20000000000000 then (0x10000000000000, exponent + 1) else (significand, exponent)

/-- The double nearest to `± num / den`; `none` where that is beyond the greatest
finite one. -/
def ofRatio? (negative : Bool) (num den : Nat) : Option Binary64 :=
  if num = 0 then some (zero negative)
  else
    let parts := nearestParts num den
    ofParts? negative parts.1 parts.2

/-- The double nearest to a natural number. -/
def ofNat? (n : Nat) : Option Binary64 :=
  ofRatio? false n 1

/-- The rounded product. -/
def mul? (x y : Binary64) : Option Binary64 :=
  let exponent := x.exponent + y.exponent
  ofRatio? (x.negative != y.negative)
    (x.significand * y.significand * twoPow exponent.toNat) (twoPow (-exponent).toNat)

/-- The rounded quotient, for a divisor other than zero. -/
def div? (x y : Binary64) : Option Binary64 :=
  let exponent := x.exponent - y.exponent
  ofRatio? (x.negative != y.negative)
    (x.significand * twoPow exponent.toNat) (y.significand * twoPow (-exponent).toNat)

/-! ## Whole values -/

/-- The exact value where it is an integer; both zeros are `0`. -/
def toInt? (x : Binary64) : Option Int :=
  let places := (-x.exponent).toNat
  if x.significand % twoPow places = 0 then
    let magnitude := x.significand / twoPow places * twoPow x.exponent.toNat
    some (if x.negative then -(magnitude : Int) else magnitude)
  else
    none

/-! ## Decimal scaling -/

/-- The greatest power of ten that scaling multiplies or divides by in one step. -/
def maxPower : Nat := 308

/-- The double nearest to `10 ^ n`. -/
def powerOfTen? (n : Nat) : Option Binary64 :=
  ofNat? (tenPow n)

/-- Division by `10 ^ maxPower` as many times as said, then by `10 ^ last`. Every
step rounds, and the steps end as soon as nothing is left to divide. -/
def scaleDownSteps? (x : Binary64) (last : Nat) : Nat → Option Binary64
  | 0 => (powerOfTen? last).bind x.div?
  | steps + 1 =>
    if x.isZero then some x
    else ((powerOfTen? maxPower).bind x.div?).bind fun y => scaleDownSteps? y last steps

/-- Division by `10 ^ n`, in steps of at most `10 ^ maxPower`. -/
def scaleDown? (x : Binary64) (n : Nat) : Option Binary64 :=
  let steps := (n - 1) / maxPower
  x.scaleDownSteps? (n - steps * maxPower) steps

/-- Multiplication by `10 ^ n`; `none` where the result leaves the range. -/
def scaleUp? (x : Binary64) (n : Nat) : Option Binary64 :=
  if n ≤ maxPower then
    (powerOfTen? n).bind x.mul?
  else if x.isZero then
    some x
  else
    none

/-- The double that stands for `significand · 10 ^ exponent`: the significand is
rounded first and the scaled value again, so the result can differ from the
nearest double in its last places. `none` beyond the greatest finite double. -/
def ofDecimal? (significand : Nat) (exponent : Int) : Option Binary64 :=
  (ofNat? significand).bind fun x =>
    if exponent < 0 then x.scaleDown? exponent.natAbs else x.scaleUp? exponent.natAbs

end Binary64

end CloudInventory
