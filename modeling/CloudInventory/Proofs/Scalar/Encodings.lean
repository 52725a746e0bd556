import CloudInventory.Proofs.Binary64.WholeNumbers
import CloudInventory.Proofs.Json.IntegerLiteral
import CloudInventory.Proofs.Network.MatchText
import CloudInventory.Proofs.Scalar.Carried

/-!
# Encodings of integers

An integer comes as a JSON integer, as the text of its digits, or as a double. The coders of
magnitudes and of fields make the same of each, a value or an error: every one of them is
read as the integer first, and what is out of range is shown by the same digits. So is a
port, as a number or as text.

A literal beyond a word comes as a double as well, and as one that the coders refuse. So an
integer literal is read as the integer that it is, or it is an error.

Results:
1. `Scalar.Carries.ofScalar_eq` and `Scalar.Carries.toBounded_eq`: what the coders make of an
   encoding depends on the integer alone.
2. `Scalar.encoding_irrelevant`: the encodings, and those of ports.
3. `Scalar.integer_literal_exact`: what the coders make of the integer literals.
-/

namespace CloudInventory

theorem Number.plainText_integer (n : Int) (fits : FitsWord n) :
    (integer n fits).plainText = Text.signedNumeralText n :=
  String.ofList_toList

/-! ## The integer of a scalar -/

namespace Magnitude

/-- What the coder of magnitudes makes of an integer. -/
def ofInt (n : Int) : Except DecodeError Magnitude :=
  if 0 ≤ n then .ok ⟨n.toNat⟩ else .error (.magnitude (Text.signedNumeralText n))

/-- The text of an integer is read as a magnitude if it has no sign. -/
theorem parse_signedNumeralText (n : Int) :
    parse (Text.signedNumeralText n) = ofInt n := by
  rw [parse, Text.trim_of_visible (Text.visible_signedNumeralText n),
    Text.toList_signedNumeralText, ofInt]
  by_cases below : n < 0
  · have sign : Text.readNumeral? ('-' :: Text.numeral n.natAbs) = none := rfl
    rw [if_pos below, sign, if_neg (Int.not_le.2 below)]
  · have value : n.natAbs = n.toNat := by omega
    rw [if_neg below, Text.readNumeral?_numeral, if_pos (Int.not_lt.1 below), value]

end Magnitude

namespace Scalar

/-- What the coder of a field makes of an integer: the value of the type that has it, if it
is a signed word. -/
def boundedOfInt (α : Type) [FixedWidth α] (field : String) (n : Int) : Except DecodeError α :=
  (if -2 ^ 63 ≤ n ∧ n < 2 ^ 63 then FixedWidth.ofInt? n else none).elim
    (.error (.integer field (Text.signedNumeralText n))) .ok

/-- The signed words among the integers, as the coder of fields tells them. -/
theorem filter_signedWord (n : Int) :
    (some n).filter (fun value =>
      decide (-0x8000000000000000 ≤ value) && decide (value < 0x8000000000000000)) =
        if -2 ^ 63 ≤ n ∧ n < 2 ^ 63 then some n else none := by
  rw [Option.filter_some]
  simp only [Bool.and_eq_true, decide_eq_true_eq]
  norm_num

/-- The scalar is an encoding of the integer. A double is one up to `2 ^ 53` in size, and
zero is the positive one. -/
inductive Carries : Scalar → Int → Prop where
  | integer {n : Int} (fits : FitsWord n) : Carries (.number (.integer n fits)) n
  | text {n : Int} : Carries (.text (Text.signedNumeralText n)) n
  | float {n : Int} {x : Binary64} (whole : x.toRat = n) (small : n.natAbs ≤ 2 ^ 53)
      (zero : n = 0 → x.negative = false) : Carries (.number (.float x)) n

namespace Carries

variable {s : Scalar} {n : Int}

/-- Errors show every encoding by the digits of the integer. -/
theorem plainText_eq (carries : Carries s n) : s.plainText = Text.signedNumeralText n := by
  cases carries with
  | integer fits => exact Number.plainText_integer n fits
  | text => rfl
  | float whole small zero => exact Binary64.plainText_of_whole whole zero small

/-- Fields take the integer if it is a signed word. -/
theorem toInt64?_eq (carries : Carries s n) :
    s.toInt64? = if -2 ^ 63 ≤ n ∧ n < 2 ^ 63 then some n else none := by
  rw [← filter_signedWord]
  cases carries with
  | integer fits => rfl
  | text =>
    rw [toInt64?, Text.trim_of_visible (Text.visible_signedNumeralText n),
      Text.readSigned?_signedNumeralText]
  | float whole small zero => rw [toInt64?, Binary64.trustedInt?_of_toRat whole small]

/-- What a field makes of an encoding depends on the integer alone. -/
theorem toBounded_eq (α : Type) [FixedWidth α] (field : String) (carries : Carries s n) :
    toBounded α field s = boundedOfInt α field n := by
  rw [toBounded, boundedOfInt, carries.toInt64?_eq, carries.plainText_eq]
  by_cases inRange : -2 ^ 63 ≤ n ∧ n < 2 ^ 63
  · rw [if_pos inRange, if_pos inRange, Option.bind_some]
    cases (FixedWidth.ofInt? n : Option α) <;> rfl
  · rw [if_neg inRange, if_neg inRange, Option.bind_none]
    rfl

/-- And so does what the coder of magnitudes makes of it. -/
theorem ofScalar_eq (carries : Carries s n) : Magnitude.ofScalar s = Magnitude.ofInt n := by
  have shown := carries.plainText_eq
  cases carries with
  | integer fits => rw [Magnitude.ofScalar, shown, Magnitude.ofInt]
  | text => exact Magnitude.parse_signedNumeralText n
  | @float _ x whole small zero =>
    have trusted := Binary64.trustedInt?_of_toRat whole small
    have sign := Binary64.negative_of_whole whole zero
    by_cases below : n < 0
    · rw [decide_eq_true below] at sign
      simp only [Magnitude.ofScalar, sign, shown, Magnitude.ofInt, if_neg (Int.not_le.2 below)]
    · rw [decide_eq_false below] at sign
      simp only [Magnitude.ofScalar, sign, trusted, Magnitude.ofInt, if_pos (Int.not_lt.1 below)]

end Carries

end Scalar

/-! ## Ports -/

namespace PortRange

theorem readPort?_signedNumeralText (n : Int) :
    readPort? (Text.signedNumeralText n).toList =
      if 0 ≤ n ∧ n < 65536 then some (UInt16.ofNat n.toNat) else none := by
  rw [readPort?, Text.trim_of_visible (Text.visible_signedNumeralText n),
    Text.toList_signedNumeralText]
  by_cases below : n < 0
  · have sign : Text.readPlusNumeral? ('-' :: Text.numeral n.natAbs) = none := rfl
    rw [if_pos below, sign, Option.bind_none, if_neg (by omega)]
  · have value : n.natAbs = n.toNat := by omega
    rw [if_neg below, Text.readPlusNumeral?_numeral, Option.bind_some, value]
    congr 1
    rw [eq_iff_iff]
    omega

/-- What the coder of ports makes of an integer. -/
def ofInt (n : Int) : Except DecodeError (Option PortRange) :=
  if 0 ≤ n ∧ n < 65536 then .ok (some (single (UInt16.ofNat n.toNat)))
  else .error (.port (Text.signedNumeralText n))

/-- The text of an integer is read as a port, or it is the error that shows it. -/
theorem parse_signedNumeralText (n : Int) : parse (Text.signedNumeralText n) = ofInt n := by
  have characters := Text.isDigit_or_minus_of_mem_signedNumeralText n
  have noColon : ∀ c ∈ (Text.signedNumeralText n).toList, c ≠ ':' := by
    rintro c member rfl
    exact absurd (characters _ member) (by decide)
  have noMark : (Text.signedNumeralText n).toList.head? ≠ some '!' := fun mark =>
    absurd (characters _ (List.mem_of_mem_head? mark)) (by decide)
  have bounds := readBounds?_of_no_colon noColon
  rw [readPort?_signedNumeralText] at bounds
  rw [parse, Text.trim_of_visible (Text.visible_signedNumeralText n), ofInt]
  cases chars : (Text.signedNumeralText n).toList with
  | nil => exact absurd chars (Text.signedNumeralText_ne_nil n)
  | cons c cs =>
    rw [chars] at noMark bounds
    simp only [stripNegation_of_head? noMark, bounds]
    by_cases port : 0 ≤ n ∧ n < 65536
    · rw [if_pos port, if_pos port]
      rfl
    · rw [if_neg port, if_neg port, ← chars, String.ofList_toList]
      rfl

theorem decode_integer (n : Int) (fits : FitsWord n) :
    decode (some (.number (.integer n fits))) = ofInt n := by
  rw [decode, Number.plainText_integer, ofInt]

end PortRange

namespace Scalar

/-- The coders make the same of any two encodings of an integer, and what they make of it is
given by the integer alone: the same value, or the same error. There is a double among the
encodings up to `2 ^ 53` in size, the text of every integer of a word is also its literal,
and ports are read alike from the number and from the text. -/
theorem encoding_irrelevant :
    (∀ (n : Int) (s t : Scalar), Carries s n → Carries t n →
      (Magnitude.ofScalar s = Magnitude.ofScalar t ∧
        Magnitude.ofScalar t = Magnitude.ofInt n) ∧
      ∀ (α : Type) [FixedWidth α] (field : String),
        toBounded α field s = toBounded α field t ∧
          toBounded α field t = boundedOfInt α field n) ∧
    (∀ n : Int, n.natAbs ≤ 2 ^ 53 → ∃ x : Binary64, Carries (.number (.float x)) n) ∧
    ∀ (n : Int) (fits : FitsWord n),
      Json.parse? (Text.signedNumeralText n) = some (.number (.integer n fits)) ∧
        PortRange.decode (some (.number (.integer n fits))) =
          PortRange.decode (some (.text (Text.signedNumeralText n))) ∧
        PortRange.decode (some (.text (Text.signedNumeralText n))) = PortRange.ofInt n := by
  refine ⟨fun n s t first second => ⟨⟨?_, second.ofScalar_eq⟩, fun α _ field =>
    ⟨?_, second.toBounded_eq α field⟩⟩, fun n small => ?_, fun n fits => ?_⟩
  · rw [first.ofScalar_eq, second.ofScalar_eq]
  · rw [first.toBounded_eq α field, second.toBounded_eq α field]
  · obtain ⟨x, whole, zero⟩ := Binary64.exists_toRat_eq small
    exact ⟨x, .float whole small zero⟩
  · have text := PortRange.parse_signedNumeralText n
    exact ⟨Json.parse?_signedNumeralText fits, (PortRange.decode_integer n fits).trans text.symm,
      text⟩

/-- Half of the words is out of range for a field of a signed word, in every encoding, and a
double is read like the number and the text. -/
theorem encoding_irrelevant_boundaries :
    toBounded Int64 "size" (.number (.integer (2 ^ 63) (by decide))) =
        .error (.integer "size" "9223372036854775808") ∧
      toBounded Int64 "size" (.text "9223372036854775808") =
        .error (.integer "size" "9223372036854775808") ∧
      ∃ x : Binary64, x.toRat = 300 ∧
        toBounded UInt8 "cpu" (.number (.float x)) = .error (.integer "cpu" "300") ∧
        Magnitude.ofScalar (.number (.float x)) = .ok ⟨300⟩ := by
  obtain ⟨alike, doubles, -⟩ := encoding_irrelevant
  have word : FitsWord (2 ^ 63) := by decide
  have small : FitsWord 300 := by decide
  obtain ⟨half, refused⟩ := (alike (2 ^ 63) _ _ (.integer word) .text).2 Int64 "size"
  obtain ⟨x, carries⟩ := doubles 300 (by decide)
  obtain ⟨⟨double, value⟩, bounded⟩ := alike 300 _ _ carries (.integer small)
  refine ⟨half.trans refused, refused, x, ?_, ?_, double.trans value⟩
  · cases carries with
    | float whole => exact whole
  · exact (bounded UInt8 "cpu").1.trans (bounded UInt8 "cpu").2

/-! ## Integer literals -/

/-- A field of a signed word is the integer itself where the word has it. -/
theorem exists_boundedOfInt_eq (field : String) {n : Int} (inRange : -2 ^ 63 ≤ n ∧ n < 2 ^ 63) :
    ∃ value : Int64, value.toInt = n ∧ boundedOfInt Int64 field n = .ok value := by
  have made : FixedWidth.ofInt? n = some (Int64.ofInt n) := if_pos inRange
  refine ⟨Int64.ofInt n, Int64.toInt_ofInt_of_le inRange.1 inRange.2, ?_⟩
  rw [boundedOfInt, if_pos inRange, made, Option.elim_some]

/-- What the coders make of an integer literal other than minus zero. A magnitude is the
value of the literal if that is an unsigned word, a field of a signed word is the value if
it is one, and anything else is an error that shows the scalar, whatever the literal is
rounded to. -/
theorem integer_literal_exact {text : String} {n : Int} {json : Json}
    (literal : NumberLiteral.IsIntegral text n) (accepted : Json.parse? text = some json) :
    ∃ s, ofJson? json = some s ∧
      (0 ≤ n ∧ n < 2 ^ 64 → Magnitude.ofScalar s = .ok ⟨n.toNat⟩) ∧
      (¬ (0 ≤ n ∧ n < 2 ^ 64) → Magnitude.ofScalar s = .error (.magnitude s.plainText)) ∧
      ∀ field : String,
        (-2 ^ 63 ≤ n ∧ n < 2 ^ 63 →
          ∃ value : Int64, value.toInt = n ∧ toBounded Int64 field s = .ok value) ∧
        (¬ (-2 ^ 63 ≤ n ∧ n < 2 ^ 63) →
          toBounded Int64 field s = .error (.integer field s.plainText)) := by
  obtain ⟨number, rfl, read⟩ := literal.exists_number accepted
  refine ⟨.number number, rfl, ?_⟩
  rcases read with ⟨fits, rfl⟩ | ⟨large, x, rfl, untrusted⟩
  · have carries : Carries (.number (.integer n fits)) n := .integer fits
    rw [carries.ofScalar_eq, carries.plainText_eq, Magnitude.ofInt]
    refine ⟨fun inRange => if_pos inRange.1, fun outside => if_neg ?_, fun field => ?_⟩
    · unfold FitsWord at fits
      omega
    · rw [carries.toBounded_eq Int64 field]
      refine ⟨exists_boundedOfInt_eq field, fun outside => ?_⟩
      rw [boundedOfInt, if_neg outside, Option.elim_none]
  · -- No word has the integer, so it is in neither range.
    unfold FitsWord at large
    refine ⟨fun inRange => by omega, fun _ => ?_,
      fun field => ⟨fun inRange => by omega, fun _ => ?_⟩⟩
    · simp only [Magnitude.ofScalar, untrusted]
      cases x.negative <;> rfl
    · rw [toBounded, toInt64?, untrusted]
      rfl

/-- Next above the greatest trusted double the literal is exact, and the first one beyond a
word is refused, though its double is the value. -/
theorem integer_literal_exact_beyond_word :
    (∃ s, (Json.parse? "9007199254740993").bind ofJson? = some s ∧
        Magnitude.ofScalar s = .ok ⟨9007199254740993⟩) ∧
      ∃ s, (Json.parse? "18446744073709551616").bind ofJson? = some s ∧
        Magnitude.ofScalar s = .error (.magnitude s.plainText) ∧
        toBounded Int64 "size" s = .error (.integer "size" s.plainText) := by
  constructor
  · have literal : NumberLiteral.IsIntegral "9007199254740993" 9007199254740993 :=
      ⟨false, "9007199254740993".toList, rfl, by decide, List.all_eq_true.1 (by decide),
        by decide, by decide⟩
    have fits : FitsWord 9007199254740993 := by decide
    have accepted : Json.parse? "9007199254740993" =
        some (.number (.integer 9007199254740993 fits)) := Json.parse?_signedNumeralText fits
    obtain ⟨s, scalar, magnitude, -⟩ := integer_literal_exact literal accepted
    rw [accepted, Option.bind_some]
    exact ⟨s, scalar, magnitude (by decide)⟩
  · have filled : "18446744073709551616".toList ≠ [] := by decide
    have areDigits : ∀ c ∈ "18446744073709551616".toList, c.isDigit = true :=
      List.all_eq_true.1 (by decide)
    have literal : NumberLiteral.IsIntegral "18446744073709551616" 18446744073709551616 :=
      ⟨false, "18446744073709551616".toList, rfl, filled, areDigits, by decide, by decide⟩
    have read : (NumberLiteral.integral false "18446744073709551616".toList).value? =
        some (.float ⟨false, 2 ^ 52, 12, by decide, by decide, by decide, by decide⟩) := by
      decide
    have accepted := NumberLiteral.parse?_integralText false filled areDigits (.inr (by decide))
    rw [read, Option.map_some] at accepted
    obtain ⟨s, scalar, -, refused, bounded⟩ := integer_literal_exact literal accepted
    refine ⟨s, ?_, refused (by decide), (bounded "size").2 (by decide)⟩
    exact (congrArg (Option.bind · ofJson?) accepted).trans scalar

end Scalar

end CloudInventory
