import CloudInventory.Proofs.Json.IntegerLiteral
import CloudInventory.Proofs.Scalar.Written
import CloudInventory.Proofs.Text.SignedNumeral

/-!
# Magnitudes as text

The texts of magnitudes are exactly the decimal numerals, of any length and with any zeros
in front, and nothing but blanks may stand around one. Every natural number is written as
its shortest numeral, and comes back from each of its forms: the text, the JSON string of
records, and the JSON number or string of requests.

Results:
1. `Text.readNumeral?_trim_iff`: what is a numeral between blanks.
2. `Magnitude.parse_eq_ok_iff` and `Magnitude.parse_of_no_numeral`: what is read, and what
   is not.
3. `Magnitude.toUInt64?_eq_some_iff`: the magnitudes that fit a word.
4. `Magnitude.text_exact`: all forms of all magnitudes.
-/

namespace CloudInventory

namespace Text

/-- The text is a numeral of the number in base ten, one or more digits with blanks around
them; the last digit counts ones, and each digit in front of another ten times as much. -/
def IsNumeralOf (cs : List Char) (n : Nat) : Prop :=
  ∃ before digits after, cs = before ++ digits ++ after ∧
    (∀ c ∈ before, isBlank c = true) ∧ (∀ c ∈ after, isBlank c = true) ∧
    digits ≠ [] ∧ (∀ c ∈ digits, '0' ≤ c ∧ c ≤ '9') ∧
    Nat.ofDigits 10 (digits.reverse.map fun c => c.toNat - '0'.toNat) = n

/-- A trimmed text is read as a number exactly if it is a numeral of it. -/
theorem readNumeral?_trim_iff {cs : List Char} {n : Nat} :
    readNumeral? (trim cs) = some n ↔ IsNumeralOf cs n := by
  rw [readNumeral?_trim_iff_padded]
  constructor
  · rintro ⟨before, digits, after, split, blankBefore, blankAfter, number⟩
    exact ⟨before, digits, after, split, blankBefore, blankAfter, number.filled, number.digits,
      number.value⟩
  · rintro ⟨before, digits, after, split, blankBefore, blankAfter, filled, areDigits, value⟩
    exact ⟨before, digits, after, split, blankBefore, blankAfter, filled, areDigits, value⟩

end Text

namespace Magnitude

/-! ## Reading -/

/-- A text is read as a magnitude exactly if it is a numeral of it. -/
theorem parse_eq_ok_iff {raw : String} {m : Magnitude} :
    parse raw = .ok m ↔ Text.IsNumeralOf raw.toList m.value := by
  rw [← Text.readNumeral?_trim_iff, parse]
  cases Text.readNumeral? (Text.trim raw.toList) with
  | none => simp only [reduceCtorEq]
  | some n =>
    obtain ⟨value⟩ := m
    simp only [Except.ok.injEq, Magnitude.mk.injEq, Option.some.injEq]

/-- Any other text is the error that carries it as it came. -/
theorem parse_of_no_numeral {raw : String} (none : ∀ n, ¬ Text.IsNumeralOf raw.toList n) :
    parse raw = .error (.magnitude raw) := by
  have missing : Text.readNumeral? (Text.trim raw.toList) = Option.none :=
    Option.eq_none_iff_forall_ne_some.2 fun n read => none n (Text.readNumeral?_trim_iff.1 read)
  rw [parse, missing]

/-! ## Writing -/

theorem toList_text (m : Magnitude) : m.text.toList = Text.numeral m.value :=
  String.toList_ofList

/-- A word is had exactly if it has the value. -/
theorem toUInt64?_eq_some_iff {m : Magnitude} {word : UInt64} :
    m.toUInt64? = some word ↔ word.toNat = m.value := by
  rw [toUInt64?, Option.ite_none_right_eq_some, Option.some.injEq]
  constructor
  · rintro ⟨fits, rfl⟩
    exact UInt64.toNat_ofNat_of_lt' fits
  · intro value
    rw [← value, UInt64.ofNat_toNat]
    exact ⟨word.toNat_lt, rfl⟩

/-- A magnitude has a word exactly if it is below `2 ^ 64`. -/
theorem exists_toUInt64?_iff {m : Magnitude} :
    (∃ word, m.toUInt64? = some word) ↔ m.value < 2 ^ 64 := by
  simp only [toUInt64?_eq_some_iff]
  constructor
  · rintro ⟨word, value⟩
    rw [← value]
    exact word.toNat_lt
  · intro fits
    exact ⟨UInt64.ofNat m.value, UInt64.toNat_ofNat_of_lt' fits⟩

theorem fitsWord_iff {m : Magnitude} : FitsWord m.value ↔ m.value < 2 ^ 64 := by
  unfold FitsWord
  omega

/-- A text that stands for a magnitude is carried through JSON. -/
theorem ofScalar_of_string (m : Magnitude) :
    (Scalar.ofJson? (.string m.text)).map ofScalar = some (.ok m) := by
  rw [Scalar.ofJson?, Option.map_some, ofScalar, parse_text]

/-- The request form stands for the magnitude, and is read back from its JSON text. -/
theorem parse?_toRequest (m : Magnitude) :
    Json.parse? m.toRequest.compact = some m.toRequest ∧
      (Scalar.ofJson? m.toRequest).map ofScalar = some (.ok m) := by
  by_cases fits : FitsWord m.value
  · rw [toRequest_of_fits fits]
    refine ⟨Json.parse?_compact_integer fits, ?_⟩
    rw [Scalar.ofJson?, Option.map_some, ofScalar, if_pos (Int.natCast_nonneg _),
      Int.toNat_natCast]
  · rw [toRequest_of_not_fits fits]
    exact ⟨Json.parse?_compact_string _, m.ofScalar_of_string⟩

/-- What is read as a magnitude, and how every magnitude is written. A text is read exactly
if it is a decimal numeral between blanks, of any length and with any zeros in front, as the
number that it denotes; every other text is an error that carries the text untrimmed. The
text of a magnitude has no zero in front of other digits and is read back; it has a word of
64 bits if it is below `2 ^ 64`, the one of the same value. In records it is a JSON string of
its digits, in requests a JSON integer below `2 ^ 64` and that string from there on, and both
are read back from their JSON text as the magnitude. -/
theorem text_exact :
    (∀ (raw : String) (m : Magnitude),
      parse raw = .ok m ↔ Text.IsNumeralOf raw.toList m.value) ∧
    (∀ raw : String, (∀ n, ¬ Text.IsNumeralOf raw.toList n) →
      parse raw = .error (.magnitude raw)) ∧
    ∀ m : Magnitude,
      ((m.text.toList.head? = some '0' → m.text = "0") ∧ parse m.text = .ok m) ∧
      ((∀ word, m.toUInt64? = some word ↔ word.toNat = m.value) ∧
        ((∃ word, m.toUInt64? = some word) ↔ m.value < 2 ^ 64)) ∧
      (m.toJson = .string m.text ∧ Json.parse? m.toJson.compact = some m.toJson ∧
        (Scalar.ofJson? m.toJson).map ofScalar = some (.ok m)) ∧
      ((m.value < 2 ^ 64 → ∃ fits, m.toRequest = .number (.integer m.value fits)) ∧
        (2 ^ 64 ≤ m.value → m.toRequest = .string m.text) ∧
        Json.parse? m.toRequest.compact = some m.toRequest ∧
        (Scalar.ofJson? m.toRequest).map ofScalar = some (.ok m)) := by
  refine ⟨fun raw m => parse_eq_ok_iff, fun raw none => parse_of_no_numeral none, fun m => ?_⟩
  refine ⟨⟨?_, m.parse_text⟩, ⟨fun word => toUInt64?_eq_some_iff, exists_toUInt64?_iff⟩,
    ⟨rfl, Json.parse?_compact_string _, m.ofScalar_of_string⟩, ?_, ?_, m.parse?_toRequest⟩
  · intro zero
    rw [toList_text, Text.head?_numeral_eq_zero_iff] at zero
    rw [text, zero]
    rfl
  · intro small
    have fits := fitsWord_iff.2 small
    exact ⟨fits, toRequest_of_fits fits⟩
  · intro large
    exact toRequest_of_not_fits (mt fitsWord_iff.1 (Nat.not_lt.2 large))

/-- Zeros and an ideographic space in front change nothing, and the first number beyond a
word is a JSON string in a request. -/
theorem text_exact_beyond_word :
    parse "\u3000007 " = .ok ⟨7⟩ ∧ parse " +7" = .error (.magnitude " +7") ∧
      (⟨2 ^ 64⟩ : Magnitude).toRequest = .string "18446744073709551616" ∧
      (Scalar.ofJson? (⟨2 ^ 64⟩ : Magnitude).toRequest).map ofScalar = some (.ok ⟨2 ^ 64⟩) := by
  obtain ⟨read, refused, written⟩ := text_exact
  obtain ⟨-, -, -, -, beyond, -, back⟩ := written ⟨2 ^ 64⟩
  have areDigits : ∀ c ∈ ['0', '0', '7'], '0' ≤ c ∧ c ≤ '9' := fun c member =>
    (Text.isDigit_iff_between c).1 (List.all_eq_true.1 (by decide) c member)
  have seven : Text.IsNumeralOf "\u3000007 ".toList 7 :=
    ⟨['\u3000'], ['0', '0', '7'], [' '], rfl, List.forall_mem_singleton.2 (by decide),
      List.forall_mem_singleton.2 (by decide), by decide, areDigits, rfl⟩
  have signed : ∀ n, ¬ Text.IsNumeralOf " +7".toList n := by
    intro n numeral
    have none : Text.readNumeral? (Text.trim " +7".toList) = none := by decide
    rw [← Text.readNumeral?_trim_iff, none] at numeral
    cases numeral
  exact ⟨(read _ ⟨7⟩).2 seven, refused " +7" signed, beyond (Nat.le_refl _), back⟩

end Magnitude

end CloudInventory
