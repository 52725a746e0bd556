import CloudInventory.Text.Hex
import CloudInventory.Proofs.Text.Trim
import Mathlib.Algebra.Group.Nat.Defs
import Mathlib.Data.List.Induction

/-!
# Numerals inside a text

A scanner takes a run of characters and goes on behind it. Here are the runs that the
client writes: decimal and hexadecimal numerals, each read back as its number.

Results:
1. `takeWhile_run` and `dropWhile_run`: a run ends where its class of characters does.
2. `head?_numeral_eq_zero_iff`: only zero is written with a zero in front.
3. `numeral_digitsValue`: digits without zeros in front are the numeral of their value.
4. `readPlusNumeral?_numeral`: a numeral is no signed one.
5. `readSigned?_signedNumeralText`: the text of an integer is read with its sign.
6. `hexDigitsValue_toDigits` and `hexDigitsValue_lt`: hexadecimal digits are read back,
   and a run of them is bounded by its length.
-/

namespace CloudInventory.Text

/-! ## Runs -/

/-- The text does not go on with a character of the class. -/
def Ends (p : Char → Bool) (rest : List Char) : Prop :=
  rest.takeWhile p = []

theorem ends_nil (p : Char → Bool) : Ends p [] := rfl

theorem ends_cons {p : Char → Bool} {c : Char} (other : p c = false) (cs : List Char) :
    Ends p (c :: cs) :=
  List.takeWhile_cons_of_neg (by rw [other]; exact Bool.false_ne_true)

/-- A text that does not go on with the class starts with another character. -/
theorem Ends.head {p : Char → Bool} {c : Char} {cs : List Char} (ends : Ends p (c :: cs)) :
    p c = false := by
  rw [Bool.eq_false_iff]
  intro same
  unfold Ends at ends
  rw [List.takeWhile_cons_of_pos same] at ends
  exact List.cons_ne_nil _ _ ends

/-- A text that does not go on with a class does not go on with a smaller one. -/
theorem Ends.imp {p q : Char → Bool} {rest : List Char} (ends : Ends p rest)
    (smaller : ∀ c, q c = true → p c = true) : Ends q rest := by
  cases rest with
  | nil => exact ends_nil q
  | cons c cs =>
    refine ends_cons ?_ cs
    rw [Bool.eq_false_iff]
    intro inside
    exact Bool.false_ne_true (ends.head.symm.trans (smaller c inside))

section

variable {p : Char → Bool} {cs rest : List Char}

theorem takeWhile_run (run : ∀ c ∈ cs, p c = true) (ends : Ends p rest) :
    (cs ++ rest).takeWhile p = cs := by
  rw [List.takeWhile_append_of_pos run, ends, List.append_nil]

theorem dropWhile_run (run : ∀ c ∈ cs, p c = true) (ends : Ends p rest) :
    (cs ++ rest).dropWhile p = rest := by
  rw [List.dropWhile_append_of_pos run]
  cases rest with
  | nil => rfl
  | cons c rest => exact List.dropWhile_cons_of_neg (by rw [ends.head]; exact Bool.false_ne_true)

end

/-! ## Decimal numerals -/

theorem isDigit_of_mem_numeral {n : Nat} : ∀ c ∈ numeral n, c.isDigit = true :=
  List.all_eq_true.1 (all_isDigit_numeral n)

/-- Only zero is written with a zero in front. -/
theorem head?_numeral_eq_zero_iff (n : Nat) : (numeral n).head? = some '0' ↔ n = 0 := by
  constructor
  · intro zero
    -- The first digit is that of the quotient by ten, down to one digit.
    induction n using Nat.strongRecOn with
    | ind n ih =>
      unfold numeral at zero
      rw [Nat.toDigits_eq_if (by decide)] at zero
      split at zero
      next small =>
        have digit : ∀ d < 10, d.digitChar = '0' → d = 0 := by decide
        exact digit n small (Option.some.inj zero)
      next large =>
        rw [List.head?_append, Option.or_eq_some_iff] at zero
        rcases zero with front | ⟨empty, -⟩
        · have quotient : n / 10 = 0 := ih (n / 10) (by omega) front
          omega
        · exact absurd (List.head?_eq_none_iff.1 empty) Nat.toDigits_ne_nil
  · rintro rfl
    rfl

theorem length_numeral_le {n : Nat} (small : n < 256) : (numeral n).length ≤ 3 :=
  (Nat.length_toDigits_le_iff (by decide) (by decide)).2 (by omega)

theorem one_lt_length_numeral_iff (n : Nat) : 1 < (numeral n).length ↔ 10 ≤ n := by
  have short : (numeral n).length ≤ 1 ↔ n < 10 :=
    Nat.length_toDigits_le_iff (by decide) (by decide)
  omega

theorem digitChar_of_isDigit {c : Char} (digit : c.isDigit = true) :
    c.toNat - 48 < 10 ∧ (c.toNat - 48).digitChar = c := by
  have bounds := isDigit_iff.1 digit
  have small : c.toNat - 48 < 10 := by omega
  have value : ∀ d < 10, d.digitChar = Char.ofNat (48 + d) := by decide
  refine ⟨small, ?_⟩
  rw [value _ small, Nat.add_sub_cancel' bounds.1, Char.ofNat_toNat]

theorem digitsValue_concat (ds : List Char) (c : Char) :
    digitsValue (ds ++ [c]) = 10 * digitsValue ds + (c.toNat - 48) := by
  rw [digitsValue, Nat.ofDigitChars_append, Nat.ofDigitChars_cons, Nat.ofDigitChars_nil]
  rfl

/-- Digits without zeros in front are the numeral of their value. -/
theorem numeral_digitsValue {ds : List Char} (nonempty : ds ≠ [])
    (digits : ∀ c ∈ ds, c.isDigit = true) (plain : ds.head? = some '0' → ds.length = 1) :
    numeral (digitsValue ds) = ds := by
  induction ds using List.reverseRecOn with
  | nil => exact absurd rfl nonempty
  | append_singleton front last ih =>
    obtain ⟨small, char⟩ := digitChar_of_isDigit (digits last (by simp))
    rw [digitsValue_concat]
    by_cases alone : front = []
    · rw [alone, show digitsValue [] = 0 from rfl, Nat.mul_zero, Nat.zero_add, numeral,
        Nat.toDigits_of_lt_base small, char]
      rfl
    · -- The digits in front are no zero, so their value is the quotient by ten.
      have head : (front ++ [last]).head? = front.head? := by
        rw [List.head?_append, List.head?_eq_some_head alone, Option.some_or]
      have long : (front ++ [last]).length ≠ 1 := by
        have := List.length_pos_iff.2 alone
        rw [List.length_append, List.length_singleton]
        omega
      have notZero : front.head? ≠ some '0' := fun zero => long (plain (head.trans zero))
      have read : numeral (digitsValue front) = front :=
        ih alone (fun c member => digits c (List.mem_append_left _ member))
          fun zero => absurd zero notZero
      have positive : 0 < digitsValue front := by
        apply Nat.pos_of_ne_zero
        intro zero
        rw [zero] at read
        exact notZero (read ▸ rfl)
      rw [numeral, ← Nat.toDigits_append_toDigits (by decide) positive small,
        Nat.toDigits_of_lt_base small, char]
      exact congrArg (· ++ [last]) read

theorem exists_numeral_eq_cons (n : Nat) :
    ∃ c cs, numeral n = c :: cs ∧ c.isDigit = true := by
  obtain ⟨c, cs, split⟩ := List.exists_cons_of_ne_nil (numeral_ne_nil n)
  refine ⟨c, cs, split, isDigit_of_mem_numeral (n := n) c ?_⟩
  rw [split]
  exact List.mem_cons_self

/-- A numeral has no sign. -/
theorem readPlusNumeral?_numeral (n : Nat) : readPlusNumeral? (numeral n) = some n := by
  have plain := readNumeral?_numeral n
  obtain ⟨c, cs, split, digit⟩ := exists_numeral_eq_cons n
  rw [split] at plain ⊢
  rw [readPlusNumeral?, plain]
  rintro cs' equal
  cases equal
  exact absurd digit (by decide)

/-! ## Integers -/

theorem toList_signedNumeralText (n : Int) :
    (signedNumeralText n).toList =
      if n < 0 then '-' :: numeral n.natAbs else numeral n.natAbs := by
  unfold signedNumeralText
  split
  · exact String.toList_ofList
  · exact String.toList_ofList

theorem signedNumeralText_ne_nil (n : Int) : (signedNumeralText n).toList ≠ [] := by
  rw [toList_signedNumeralText]
  split
  · exact List.cons_ne_nil _ _
  · exact numeral_ne_nil _

theorem isDigit_or_minus_of_mem_signedNumeralText (n : Int) :
    ∀ c ∈ (signedNumeralText n).toList, c.isDigit = true ∨ c = '-' := by
  intro c member
  rw [toList_signedNumeralText] at member
  split at member
  · rcases List.mem_cons.1 member with minus | digit
    · exact .inr minus
    · exact .inl (isDigit_of_mem_numeral c digit)
  · exact .inl (isDigit_of_mem_numeral c member)

theorem visible_signedNumeralText (n : Int) : Visible (signedNumeralText n).toList := by
  intro c member
  rcases isDigit_or_minus_of_mem_signedNumeralText n c member with digit | rfl
  · exact isBlank_of_isDigit digit
  · decide

/-- The text of an integer is read with its sign. -/
theorem readSigned?_signedNumeralText (n : Int) :
    readSigned? (signedNumeralText n).toList = some n := by
  have plain := readNumeral?_numeral n.natAbs
  rw [toList_signedNumeralText]
  split
  next below =>
    have value : -(n.natAbs : Int) = n := by omega
    rw [readSigned?, plain]
    exact congrArg some value
  next nonneg =>
    have value : Int.ofNat n.natAbs = n := Int.natAbs_of_nonneg (Int.not_lt.1 nonneg)
    obtain ⟨c, cs, split, digit⟩ := exists_numeral_eq_cons n.natAbs
    rw [split] at plain ⊢
    rw [readSigned?, plain, Option.map_some, value]
    · rintro cs' equal
      cases equal
      exact absurd digit (by decide)
    · rintro cs' equal
      cases equal
      exact absurd digit (by decide)

/-! ## Hexadecimal numerals -/

theorem hexValue?_digitChar : ∀ d < 16, hexValue? d.digitChar = some d := by
  decide

theorem isHexDigit_of_mem_toDigits {n : Nat} {c : Char} (member : c ∈ Nat.toDigits 16 n) :
    isHexDigit c = true := by
  induction n using Nat.strongRecOn with
  | ind n ih =>
    rw [Nat.toDigits_eq_if (by decide)] at member
    split at member
    next small =>
      rw [List.mem_singleton.1 member, isHexDigit, hexValue?_digitChar n small]
      rfl
    next large =>
      rcases List.mem_append.1 member with inside | last
      · exact ih (n / 16) (by omega) inside
      · rw [List.mem_singleton.1 last, isHexDigit,
          hexValue?_digitChar (n % 16) (Nat.mod_lt n (by decide))]
        rfl

/-- Hexadecimal digits are read back as the number. -/
theorem hexDigitsValue_toDigits (n : Nat) : hexDigitsValue (Nat.toDigits 16 n) = n := by
  induction n using Nat.strongRecOn with
  | ind n ih =>
    rw [Nat.toDigits_eq_if (by decide)]
    split
    next small =>
      rw [hexDigitsValue, List.foldl_cons, List.foldl_nil, hexValue?_digitChar n small]
      exact Nat.zero_add n
    next large =>
      have quotient : hexDigitsValue (Nat.toDigits 16 (n / 16)) = n / 16 := ih (n / 16) (by omega)
      have remainder := hexValue?_digitChar (n % 16) (Nat.mod_lt n (by decide))
      unfold hexDigitsValue at quotient ⊢
      rw [List.foldl_append, quotient, List.foldl_cons, List.foldl_nil, remainder,
        Option.getD_some]
      exact Nat.div_add_mod' n 16

theorem hexValue?_lt {c : Char} {d : Nat} (value : hexValue? c = some d) : d < 16 := by
  have between {low : Char} {high : Char} (inside : low ≤ c ∧ c ≤ high) :
      low.toNat ≤ c.toNat ∧ c.toNat ≤ high.toNat := inside
  have codes : '0'.toNat = 48 ∧ '9'.toNat = 57 ∧ 'a'.toNat = 97 ∧ 'f'.toNat = 102 ∧
      'A'.toNat = 65 ∧ 'F'.toNat = 70 := by decide
  unfold hexValue? at value
  split at value
  next inside =>
    have := between inside
    cases value
    omega
  next =>
    split at value
    next inside =>
      have := between inside
      cases value
      omega
    next =>
      split at value
      next inside =>
        have := between inside
        cases value
        omega
      next => cases value

/-- A run of hexadecimal digits is worth less than the power of its length. -/
theorem hexDigitsValue_lt (ds : List Char) : hexDigitsValue ds < 16 ^ ds.length := by
  induction ds using List.reverseRecOn with
  | nil => exact Nat.one_pos
  | append_singleton front last ih =>
    have digit : (hexValue? last).getD 0 < 16 := by
      cases value : hexValue? last with
      | none => decide
      | some d => exact hexValue?_lt value
    have value : hexDigitsValue (front ++ [last]) =
        hexDigitsValue front * 16 + (hexValue? last).getD 0 := by
      rw [hexDigitsValue, List.foldl_append]
      rfl
    rw [value, List.length_append, List.length_singleton, Nat.pow_succ]
    omega

theorem length_toDigits_le {n : Nat} (small : n < 65536) : (Nat.toDigits 16 n).length ≤ 4 :=
  (Nat.length_toDigits_le_iff (by decide) (by decide)).2 small

end CloudInventory.Text
