/-!
# Hexadecimal digits

The digits of base sixteen in either case.
-/

namespace CloudInventory.Text

/-- The value of a hexadecimal digit of either case. -/
def hexValue? (c : Char) : Option Nat :=
  if '0' ≤ c ∧ c ≤ '9' then some (c.toNat - '0'.toNat)
  else if 'a' ≤ c ∧ c ≤ 'f' then some (c.toNat - 'a'.toNat + 10)
  else if 'A' ≤ c ∧ c ≤ 'F' then some (c.toNat - 'A'.toNat + 10)
  else none

def isHexDigit (c : Char) : Bool :=
  (hexValue? c).isSome

/-- The value of a run of hexadecimal digits; any other character counts as zero. -/
def hexDigitsValue (cs : List Char) : Nat :=
  cs.foldl (fun sofar c => sofar * 16 + (hexValue? c).getD 0) 0

end CloudInventory.Text
