import CloudInventory.Proofs.Text.Numeral
import Mathlib.Data.Nat.Digits.Defs

/-!
# Numerals with a sign

Fields and ports take a numeral with a sign and with blanks around it. Which signs are
allowed is a matter of the field; nothing may stand between the sign and the digits.

Results:
1. `padded_iff`: blanks around a visible text are what trimming takes.
2. `readNumeral?_eq_some_iff`, `readPlusNumeral?_eq_some_iff` and `readSigned?_eq_some_iff`:
   what each reader accepts, and as which number.
-/

namespace CloudInventory.Text

/-! ## Blanks around a text -/

/-- A text with the property, and nothing but blanks around it. -/
def Padded (property : List Char → Prop) (cs : List Char) : Prop :=
  ∃ before core after, cs = before ++ core ++ after ∧
    (∀ c ∈ before, isBlank c = true) ∧ (∀ c ∈ after, isBlank c = true) ∧ property core

/-- If only visible texts have the property, it is one of the trimmed text. -/
theorem padded_iff {property : List Char → Prop} {cs : List Char}
    (visible : ∀ core, property core → core ≠ [] ∧ Visible core) :
    Padded property cs ↔ property (trim cs) := by
  constructor
  · rintro ⟨before, core, after, rfl, blankBefore, blankAfter, holds⟩
    obtain ⟨filled, isVisible⟩ := visible core holds
    rwa [trim_between blankBefore isVisible filled blankAfter]
  · intro holds
    obtain ⟨before, after, split, blankBefore, blankAfter⟩ := exists_blanks_trim cs
    exact ⟨before, trim cs, after, split, blankBefore, blankAfter, holds⟩

/-! ## Digits -/

theorem isDigit_iff_between (c : Char) : c.isDigit = true ↔ '0' ≤ c ∧ c ≤ '9' := by
  rw [isDigit_iff]
  exact Iff.rfl

/-- The value of digits is the sum of what they count. -/
theorem digitsValue_eq_ofDigits (ds : List Char) :
    digitsValue ds = Nat.ofDigits 10 (ds.reverse.map fun c => c.toNat - '0'.toNat) := by
  induction ds using List.reverseRecOn with
  | nil => rfl
  | append_singleton front last ih =>
    have ones : '0'.toNat = 48 := rfl
    rw [digitsValue_concat, List.reverse_append, List.reverse_singleton, List.singleton_append,
      List.map_cons, Nat.ofDigits_cons, ih, ones, Nat.add_comm]

/-- One or more digits of the number in base ten: the last one counts ones, and each digit
in front of another ten times as much. -/
structure IsDigitsOf (cs : List Char) (n : Nat) : Prop where
  filled : cs ≠ []
  digits : ∀ c ∈ cs, '0' ≤ c ∧ c ≤ '9'
  value : Nat.ofDigits 10 (cs.reverse.map fun c => c.toNat - '0'.toNat) = n

theorem readNumeral?_eq_some_iff {cs : List Char} {n : Nat} :
    readNumeral? cs = some n ↔ IsDigitsOf cs n := by
  rw [readNumeral?, Option.ite_none_right_eq_some, Option.some.injEq, List.all_eq_true,
    digitsValue_eq_ofDigits]
  simp only [isDigit_iff_between]
  constructor
  · rintro ⟨⟨filled, digits⟩, value⟩
    exact ⟨filled, digits, value⟩
  · rintro ⟨filled, digits, value⟩
    exact ⟨⟨filled, digits⟩, value⟩

namespace IsDigitsOf

variable {cs : List Char} {n : Nat}

theorem visible (number : IsDigitsOf cs n) : Visible cs := fun c member =>
  isBlank_of_isDigit ((isDigit_iff_between c).2 (number.digits c member))

/-- Digits do not start with a character below them, such as a sign. -/
theorem head?_ne {sign : Char} (low : sign < '0') (number : IsDigitsOf cs n) :
    cs.head? ≠ some sign := fun starts =>
  Char.not_le.2 low (number.digits sign (List.mem_of_mem_head? starts)).1

end IsDigitsOf

/-! ## Signs -/

/-- The digits of the number, or a plus sign in front of them. -/
inductive IsPlusNumeralOf : List Char → Nat → Prop
  | plain {cs : List Char} {n : Nat} (number : IsDigitsOf cs n) : IsPlusNumeralOf cs n
  | plus {cs : List Char} {n : Nat} (number : IsDigitsOf cs n) : IsPlusNumeralOf ('+' :: cs) n

/-- The digits of the number, a plus sign in front of them, or a minus sign in front of
those of its negation. -/
inductive IsSignedNumeralOf : List Char → Int → Prop
  | plain {cs : List Char} {n : Nat} (number : IsDigitsOf cs n) : IsSignedNumeralOf cs n
  | plus {cs : List Char} {n : Nat} (number : IsDigitsOf cs n) : IsSignedNumeralOf ('+' :: cs) n
  | minus {cs : List Char} {n : Nat} (number : IsDigitsOf cs n) :
    IsSignedNumeralOf ('-' :: cs) (-n)

theorem readPlusNumeral?_eq_some_iff {cs : List Char} {n : Nat} :
    readPlusNumeral? cs = some n ↔ IsPlusNumeralOf cs n := by
  constructor
  · intro read
    rw [readPlusNumeral?.eq_def] at read
    split at read
    · exact .plus (readNumeral?_eq_some_iff.1 read)
    · exact .plain (readNumeral?_eq_some_iff.1 read)
  · intro written
    cases written with
    | plus number => exact readNumeral?_eq_some_iff.2 number
    | plain number =>
      have unsigned : cs.head? ≠ some '+' := number.head?_ne (by decide)
      rw [readPlusNumeral?, readNumeral?_eq_some_iff.2 number]
      rintro rest rfl
      exact unsigned rfl

/-- Behind a minus sign stand the digits of the negation. -/
theorem readSigned?_minus_eq_some_iff {cs : List Char} {n : Int} :
    readSigned? ('-' :: cs) = some n ↔ ∃ value : Nat, IsDigitsOf cs value ∧ n = -value := by
  simp only [← readNumeral?_eq_some_iff]
  rw [readSigned?]
  cases readNumeral? cs with
  | none =>
    constructor
    · intro read
      cases read
    · rintro ⟨_, ⟨⟩, -⟩
  | some value =>
    constructor
    · rintro ⟨⟩
      exact ⟨value, rfl, rfl⟩
    · rintro ⟨_, ⟨⟩, rfl⟩
      rfl

theorem readSigned?_eq_some_iff {cs : List Char} {n : Int} :
    readSigned? cs = some n ↔ IsSignedNumeralOf cs n := by
  constructor
  · intro read
    by_cases negative : cs.head? = some '-'
    · obtain ⟨digits, rfl⟩ := List.head?_eq_some_iff.1 negative
      obtain ⟨value, number, rfl⟩ := readSigned?_minus_eq_some_iff.1 read
      exact .minus number
    rw [readSigned?.eq_def] at read
    split at read
    · exact absurd rfl negative
    · obtain ⟨value, number, rfl⟩ := Option.map_eq_some_iff.1 read
      exact .plus (readNumeral?_eq_some_iff.1 number)
    · obtain ⟨value, number, rfl⟩ := Option.map_eq_some_iff.1 read
      exact .plain (readNumeral?_eq_some_iff.1 number)
  · intro written
    cases written with
    | minus number => exact readSigned?_minus_eq_some_iff.2 ⟨_, number, rfl⟩
    | plus number => rw [readSigned?, readNumeral?_eq_some_iff.2 number]; rfl
    | plain number =>
      have unsigned : cs.head? ≠ some '+' := number.head?_ne (by decide)
      have positive : cs.head? ≠ some '-' := number.head?_ne (by decide)
      rw [readSigned?, readNumeral?_eq_some_iff.2 number]
      · rfl
      · rintro rest rfl
        exact positive rfl
      · rintro rest rfl
        exact unsigned rfl

/-! ## Blanks around a numeral -/

theorem IsPlusNumeralOf.visible {cs : List Char} {n : Nat} (written : IsPlusNumeralOf cs n) :
    cs ≠ [] ∧ Visible cs := by
  cases written with
  | plain number => exact ⟨number.filled, number.visible⟩
  | plus number => exact ⟨List.cons_ne_nil _ _, number.visible.cons (by decide)⟩

theorem IsSignedNumeralOf.visible {cs : List Char} {n : Int} (written : IsSignedNumeralOf cs n) :
    cs ≠ [] ∧ Visible cs := by
  cases written with
  | plain number => exact ⟨number.filled, number.visible⟩
  | plus number => exact ⟨List.cons_ne_nil _ _, number.visible.cons (by decide)⟩
  | minus number => exact ⟨List.cons_ne_nil _ _, number.visible.cons (by decide)⟩

theorem readNumeral?_trim_iff_padded {cs : List Char} {n : Nat} :
    readNumeral? (trim cs) = some n ↔ Padded (IsDigitsOf · n) cs := by
  rw [readNumeral?_eq_some_iff, padded_iff fun _ number => ⟨number.filled, number.visible⟩]

theorem readPlusNumeral?_trim_iff {cs : List Char} {n : Nat} :
    readPlusNumeral? (trim cs) = some n ↔ Padded (IsPlusNumeralOf · n) cs := by
  rw [readPlusNumeral?_eq_some_iff, padded_iff fun _ written => written.visible]

theorem readSigned?_trim_iff {cs : List Char} {n : Int} :
    readSigned? (trim cs) = some n ↔ Padded (IsSignedNumeralOf · n) cs := by
  rw [readSigned?_eq_some_iff, padded_iff fun _ written => written.visible]

end CloudInventory.Text
