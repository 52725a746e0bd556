import CloudInventory.Binary64.Layout

/-!
# JSON numbers

A literal without fraction and exponent that fits 64 bits, with or without sign,
is kept as an integer. Every other literal becomes a double. The reading is not
always the nearest double: the digits are taken while they fit 64 bits, the ones
after that only count as places, and the power of ten is applied with a rounding
of its own (`Binary64.ofDecimal?`).
-/

namespace CloudInventory

/-- The integers that fit a signed or an unsigned word of 64 bits. -/
def FitsWord (value : Int) : Prop :=
  -0x8000000000000000 ≤ value ∧ value < 0x10000000000000000

instance (value : Int) : Decidable (FitsWord value) :=
  inferInstanceAs (Decidable (_ ∧ _))

/-- A number as a JSON text carries it. -/
inductive Number where
  | integer (value : Int) (fits : FitsWord value)
  | float (value : Binary64)
  deriving DecidableEq

namespace Number

/-- The number for an integer that fits a word. -/
def ofInt? (value : Int) : Option Number :=
  if fits : FitsWord value then some (.integer value fits) else none

/-- The number for a word. -/
def ofUInt64 (value : UInt64) : Number :=
  .integer value.toNat ⟨by omega, by have := value.toNat_lt; omega⟩

/-- The number for a half word. -/
def ofUInt32 (value : UInt32) : Number :=
  .integer value.toNat ⟨by omega, by have := value.toNat_lt; omega⟩

/-- The number for a signed half word. -/
def ofInt32 (value : Int32) : Number :=
  .integer value.toInt ⟨by have := value.le_toInt; omega, by have := value.toInt_lt; omega⟩

/-- The literal that stands for the number in a JSON text. -/
def literalChars : Number → List Char
  | .integer value _ => (Text.signedNumeralText value).toList
  | .float x => x.literalChars

/-- The number in plain notation, without an exponent and without `.0`. -/
def plainChars : Number → List Char
  | .integer value _ => (Text.signedNumeralText value).toList
  | .float x => x.plainChars

def plainText (n : Number) : String :=
  String.ofList n.plainChars

end Number

/-! ## Literals -/

/-- The parts of a number literal: the digits of the whole part, of the fraction
and of the exponent, with their signs. -/
structure NumberLiteral where
  negative : Bool
  whole : List Char
  fraction : Option (List Char)
  exponent : Option (Bool × List Char)
  deriving DecidableEq, Repr

namespace NumberLiteral

/-- Leading digits that still fit an unsigned word behind `sofar`: the value they
lead to, and the digits left over. -/
def takeFitting (sofar : Nat) : List Char → Nat × List Char
  | [] => (sofar, [])
  | c :: cs =>
    let next := 10 * sofar + (c.toNat - '0'.toNat)
    if next < UInt64.size then takeFitting next cs else (sofar, c :: cs)

/-- The written exponent. -/
def writtenExponent (l : NumberLiteral) : Int :=
  match l.exponent with
  | some (true, digits) => -(Text.digitsValue digits : Int)
  | some (false, digits) => Text.digitsValue digits
  | none => 0

/-- The significand and the power of ten that the literal is read as. -/
def decimalParts (l : NumberLiteral) : Nat × Int :=
  let (whole, dropped) := takeFitting 0 l.whole
  let fraction := l.fraction.getD []
  let (significand, ignored) := takeFitting whole fraction
  (significand, dropped.length - ((fraction.length - ignored.length : Nat) : Int) +
    l.writtenExponent)

/-- The literal as a double; `none` beyond the greatest finite one. -/
def toFloat? (l : NumberLiteral) : Option Number :=
  let (significand, exponent) := l.decimalParts
  (Binary64.ofDecimal? significand exponent).map fun x => .float (x.withSign l.negative)

/-- The number that the literal denotes. Minus zero is a double: no integer has
its sign. -/
def value? (l : NumberLiteral) : Option Number :=
  match l.fraction, l.exponent with
  | none, none =>
    let magnitude : Int := Text.digitsValue l.whole
    let value := if l.negative then -magnitude else magnitude
    if l.negative && value == 0 then l.toFloat?
    else
      match Number.ofInt? value with
      | some n => some n
      | none => l.toFloat?
  | _, _ => l.toFloat?

/-- A sign before a number. -/
def scanSign : List Char → Bool × List Char
  | '-' :: cs => (true, cs)
  | cs => (false, cs)

/-- The digits of a whole part: one zero, or digits that start with another. -/
def scanWhole? (cs : List Char) : Option (List Char × List Char) :=
  match cs.takeWhile Char.isDigit, cs.dropWhile Char.isDigit with
  | [], _ => none
  | ['0'], rest => some (['0'], rest)
  | '0' :: _, _ => none
  | digits, rest => some (digits, rest)

/-- A point with its digits, if one follows. -/
def scanFraction? : List Char → Option (Option (List Char) × List Char)
  | '.' :: cs =>
    match cs.takeWhile Char.isDigit with
    | [] => none
    | digits => some (some digits, cs.dropWhile Char.isDigit)
  | cs => some (none, cs)

/-- The sign and the digits of an exponent. -/
def scanExponentDigits? (cs : List Char) : Option (Option (Bool × List Char) × List Char) :=
  let (negative, unsigned) := match cs with
    | '+' :: rest => (false, rest)
    | '-' :: rest => (true, rest)
    | rest => (false, rest)
  match unsigned.takeWhile Char.isDigit with
  | [] => none
  | digits => some (some (negative, digits), unsigned.dropWhile Char.isDigit)

/-- An exponent, if one follows. -/
def scanExponent? : List Char → Option (Option (Bool × List Char) × List Char)
  | 'e' :: cs => scanExponentDigits? cs
  | 'E' :: cs => scanExponentDigits? cs
  | cs => some (none, cs)

/-- The literal at the start of a text and what follows it. -/
def scan? (cs : List Char) : Option (NumberLiteral × List Char) := do
  let (negative, unsigned) := scanSign cs
  let (whole, afterWhole) ← scanWhole? unsigned
  let (fraction, afterFraction) ← scanFraction? afterWhole
  let (exponent, rest) ← scanExponent? afterFraction
  pure (⟨negative, whole, fraction, exponent⟩, rest)

/-! ### What a scan leaves is shorter -/

theorem length_dropWhile_le {α : Type} (p : α → Bool) (cs : List α) :
    (cs.dropWhile p).length ≤ cs.length :=
  (List.dropWhile_suffix p).length_le

theorem length_dropWhile_lt {α : Type} {p : α → Bool} {cs : List α}
    (taken : cs.takeWhile p ≠ []) : (cs.dropWhile p).length < cs.length := by
  cases cs with
  | nil => simp at taken
  | cons c cs =>
    cases holds : p c with
    | true =>
      have := length_dropWhile_le p cs
      simp [holds]
      omega
    | false => simp [holds] at taken

theorem length_scanSign (cs : List Char) : (scanSign cs).2.length ≤ cs.length := by
  unfold scanSign
  split <;> simp

theorem length_scanWhole? {cs digits rest : List Char}
    (scanned : scanWhole? cs = some (digits, rest)) : rest.length < cs.length := by
  unfold scanWhole? at scanned
  split at scanned
  · simp at scanned
  · cases scanned
    exact length_dropWhile_lt (by simp_all)
  · simp at scanned
  · cases scanned
    exact length_dropWhile_lt (by simp_all)

theorem length_scanFraction? {cs rest : List Char} {fraction : Option (List Char)}
    (scanned : scanFraction? cs = some (fraction, rest)) : rest.length ≤ cs.length := by
  unfold scanFraction? at scanned
  split at scanned
  next after =>
    have := length_dropWhile_le Char.isDigit after
    split at scanned
    · simp at scanned
    · cases scanned
      simp
      omega
  · cases scanned
    exact Nat.le_refl _

theorem length_scanExponentDigits? {cs rest : List Char} {exponent : Option (Bool × List Char)}
    (scanned : scanExponentDigits? cs = some (exponent, rest)) : rest.length ≤ cs.length := by
  have bound (p : Bool × List Char) (short : p.2.length ≤ cs.length) :
      (p.2.dropWhile Char.isDigit).length ≤ cs.length :=
    Nat.le_trans (length_dropWhile_le _ _) short
  unfold scanExponentDigits? at scanned
  simp only at scanned
  split at scanned
  · simp at scanned
  · cases scanned
    apply bound
    split <;> simp

theorem length_scanExponent? {cs rest : List Char} {exponent : Option (Bool × List Char)}
    (scanned : scanExponent? cs = some (exponent, rest)) : rest.length ≤ cs.length := by
  unfold scanExponent? at scanned
  split at scanned
  · have := length_scanExponentDigits? scanned
    simp
    omega
  · have := length_scanExponentDigits? scanned
    simp
    omega
  · cases scanned
    exact Nat.le_refl _

/-- A literal takes at least one character. -/
theorem length_scan? {cs rest : List Char} {literal : NumberLiteral}
    (scanned : scan? cs = some (literal, rest)) : rest.length < cs.length := by
  simp only [scan?, Option.bind_eq_bind, Option.bind_eq_some_iff, Option.pure_def,
    Option.some.injEq, Prod.mk.injEq, Prod.exists] at scanned
  obtain ⟨_, _, whole, _, _, fraction, _, _, exponent, _, rfl⟩ := scanned
  have := length_scanSign cs
  have := length_scanWhole? whole
  have := length_scanFraction? fraction
  have := length_scanExponent? exponent
  omega

end NumberLiteral

end CloudInventory
