/-!
# Decimal numerals

A numeral is a non-empty run of ASCII digits, read in base ten; leading zeros are
allowed. A number is written without them. Reading what was written gives the
number back (`readNumeral?_numeral`).
-/

namespace CloudInventory.Text

/-- The decimal digits of a number, without leading zeros; zero is the one digit `0`. -/
def numeral (n : Nat) : List Char :=
  Nat.toDigits 10 n

/-- The decimal text of a number. -/
def numeralText (n : Nat) : String :=
  String.ofList (numeral n)

/-- The decimal text of an integer: a minus sign before the digits of a negative one. -/
def signedNumeralText (n : Int) : String :=
  if n < 0 then String.ofList ('-' :: numeral n.natAbs) else numeralText n.natAbs

/-- The value of a run of digits in base ten. -/
def digitsValue (cs : List Char) : Nat :=
  Nat.ofDigitChars 10 cs 0

/-- The number that a numeral denotes; `none` for every other text. -/
def readNumeral? (cs : List Char) : Option Nat :=
  if cs ≠ [] ∧ cs.all Char.isDigit = true then some (digitsValue cs) else none

/-- A numeral with an optional leading plus sign. -/
def readPlusNumeral? : List Char → Option Nat
  | '+' :: cs => readNumeral? cs
  | cs => readNumeral? cs

/-- A numeral with an optional sign. -/
def readSigned? : List Char → Option Int
  | '-' :: cs => (readNumeral? cs).map fun n => -(n : Int)
  | '+' :: cs => (readNumeral? cs).map Int.ofNat
  | cs => (readNumeral? cs).map Int.ofNat

theorem numeral_ne_nil (n : Nat) : numeral n ≠ [] := by
  intro empty
  have := Nat.toDigits_eq_if (b := 10) (n := n) (by decide)
  unfold numeral at empty
  rw [empty] at this
  split at this <;> simp at this

theorem all_isDigit_numeral (n : Nat) : (numeral n).all Char.isDigit = true := by
  simp only [List.all_eq_true]
  intro c member
  exact Nat.isDigit_of_mem_toDigits (by decide) (by decide) member

theorem digitsValue_numeral (n : Nat) : digitsValue (numeral n) = n :=
  Nat.ofDigitChars_toDigits (by decide) (by decide)

/-- Reading a written number gives the number back. -/
theorem readNumeral?_numeral (n : Nat) : readNumeral? (numeral n) = some n := by
  simp [readNumeral?, numeral_ne_nil n, all_isDigit_numeral n, digitsValue_numeral]

end CloudInventory.Text
