import CloudInventory.Binary64.Basic
import CloudInventory.Text.Digits

/-!
# Shortest decimals

The decimal with the fewest digits that reads back as a given double, and of
those the nearest to it. A decimal reads back if it lies in the interval of the
reals that round to the double; the ends belong to it when the significand is
even. For each digit count the two neighbours of the value on the decimal grid
are tested, so the first grid with a hit has the fewest digits.
-/

namespace CloudInventory

/-- A decimal `digits · 10 ^ exponent`. -/
structure Decimal where
  digits : Nat
  exponent : Int
  deriving DecidableEq, Repr

/-- What becomes of a value halfway between two decimals of a grid. -/
inductive TieRule where
  /-- The decimal with the even last digit. -/
  | even
  /-- The greater decimal. -/
  | up
  deriving DecidableEq, Repr

namespace Decimal

/-- The same value without zeros at the end of the digits. -/
def normalize (digits : Nat) (exponent : Int) : Decimal :=
  if h : 0 < digits ∧ digits % 10 = 0 then
    normalize (digits / 10) (exponent + 1)
  else
    ⟨digits, exponent⟩
  termination_by digits
  decreasing_by omega

end Decimal

namespace Binary64

/-- A real `numerator · 2 ^ exponent / 4` beside `digits · 10 ^ scale`: both
sides over a common denominator, as natural numbers. -/
def onCommonScale (numerator : Nat) (exponent : Int) (digits : Nat) (scale : Int) : Nat × Nat :=
  (numerator * twoPow exponent.toNat * tenPow (-scale).toNat,
    4 * digits * tenPow scale.toNat * twoPow (-exponent).toNat)

/-- Whether `digits · 10 ^ scale` rounds to the magnitude of `x`. -/
def readsBack (x : Binary64) (digits : Nat) (scale : Int) : Bool :=
  let below := if x.significand = 0x10000000000000 ∧ x.exponent ≠ -1074 then 1 else 2
  let (low, candidate) := onCommonScale (4 * x.significand - below) x.exponent digits scale
  let (high, _) := onCommonScale (4 * x.significand + 2) x.exponent digits scale
  if x.significand % 2 = 0 then
    decide (low ≤ candidate) && decide (candidate ≤ high)
  else
    decide (low < candidate) && decide (candidate < high)

/-- The greatest `k` with `10 ^ k` at most the magnitude of `x`, for `x` other than zero. -/
def decimalExponent (x : Binary64) : Int :=
  let places := (-x.exponent).toNat
  let whole := x.significand * twoPow x.exponent.toNat / twoPow places
  if whole = 0 then
    let inverse := (twoPow places + x.significand - 1) / x.significand
    Int.neg (Text.numeral (inverse - 1)).length
  else
    ((Text.numeral whole).length : Int) - 1

/-- The decimal of a grid that reads back as `x`, if there is one: `scale` is the
exponent of the grid. -/
def onGrid? (x : Binary64) (tie : TieRule) (scale : Int) : Option Nat :=
  let num := x.significand * twoPow x.exponent.toNat * tenPow (-scale).toNat
  let den := twoPow (-x.exponent).toNat * tenPow scale.toNat
  let floor := num / den
  let twice := 2 * (num % den)
  let upper := match compare twice den with
    | .lt => false
    | .gt => true
    | .eq => match tie with
      | .even => floor % 2 == 1
      | .up => true
  match x.readsBack floor scale, x.readsBack (floor + 1) scale with
  | true, true => some (if upper then floor + 1 else floor)
  | true, false => some floor
  | false, true => some (floor + 1)
  | false, false => none

/-- Seventeen digits tell any two doubles apart. -/
def maxDigits : Nat := 17

/-- The shortest decimal that reads back as the magnitude of `x`, nearest to it
among those of its length. -/
def shortest (x : Binary64) (tie : TieRule) : Decimal :=
  if x.isZero then ⟨0, 0⟩
  else
    let top := x.decimalExponent
    let found := (List.range maxDigits).findSome? fun (count : Nat) =>
      let scale : Int := top - count
      (x.onGrid? tie scale).map fun digits => Decimal.normalize digits scale
    found.getD ⟨0, 0⟩

end Binary64

end CloudInventory
