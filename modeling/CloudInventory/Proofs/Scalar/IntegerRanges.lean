import CloudInventory.Proofs.Resource.FieldTables
import CloudInventory.Proofs.Scalar.Encodings
import CloudInventory.Proofs.Text.SignedNumeral

/-!
# Ranges of bounded integers

A field of fixed width takes an integer if its type has it, and any other integer is an error
that names the field. An integer comes as a JSON integer or as text, with a sign or none, with
zeros in front and blanks around it. All of them pass through a signed word of 64 bits first.
That word has every integer of the narrower types, but not the upper half of the unsigned word,
so an integer there is an error as well, though it is in range.

Results:
1. `Scalar.Denotes.toInt64?_eq`: what is read before the range of a type is looked at;
   `Scalar.takenAs_of_toBounded`: nothing else is read.
2. `Json.boundedField_exact`: the integers that a field takes, and the error of all others.
3. `Json.upper_half_refused`: a ledger entry of a cycle in the upper half is not decoded.
-/

namespace CloudInventory

/-! ## Types -/

namespace IntegerType

/-- The integers of a type. -/
def Has : IntegerType → Int → Prop
  | uint8, n => 0 ≤ n ∧ n < 2 ^ 8
  | uint32, n => 0 ≤ n ∧ n < 2 ^ 32
  | uint64, n => 0 ≤ n ∧ n < 2 ^ 64
  | int32, n => -2 ^ 31 ≤ n ∧ n < 2 ^ 31

instance : (type : IntegerType) → (n : Int) → Decidable (type.Has n)
  | uint8, _ | uint32, _ | uint64, _ | int32, _ => inferInstanceAs (Decidable (_ ∧ _))

instance lawful : (type : IntegerType) → LawfulFixedWidth type.Value
  | uint8 => inferInstanceAs (LawfulFixedWidth UInt8)
  | uint32 => inferInstanceAs (LawfulFixedWidth UInt32)
  | uint64 => inferInstanceAs (LawfulFixedWidth UInt64)
  | int32 => inferInstanceAs (LawfulFixedWidth Int32)

theorem exists_ofInt? {type : IntegerType} {n : Int} (has : type.Has n) :
    ∃ value : type.Value, FixedWidth.ofInt? n = some value := by
  cases type <;> exact ⟨_, if_pos has⟩

theorem ofInt?_eq_none {type : IntegerType} {n : Int} (lacks : ¬ type.Has n) :
    (FixedWidth.ofInt? n : Option type.Value) = none := by
  cases type <;> exact if_neg lacks

/-- Only the unsigned word has integers that no signed word has. -/
theorem signedWord_iff {type : IntegerType} {n : Int} (has : type.Has n) :
    (-2 ^ 63 ≤ n ∧ n < 2 ^ 63) ↔ (type = uint64 → n < 2 ^ 63) := by
  cases type <;> simp only [Has] at has <;> simp <;> omega

end IntegerType

/-! ## What is read of a scalar -/

namespace Scalar

/-- The scalar stands for the integer. It is a JSON integer, or what an accepted literal has
become, which for minus zero is a zero with a sign; or it is text with an optional sign and
with blanks around it. -/
inductive Denotes : Scalar → Int → Prop
  | integer {n : Int} (fits : FitsWord n) : Denotes (.number (.integer n fits)) n
  | literal {text : String} {n : Int} {json : Json} {s : Scalar}
    (literal : NumberLiteral.IsIntegral text n) (accepted : Json.parse? text = some json)
    (scalar : ofJson? json = some s) : Denotes s n
  | zero {x : Binary64} (zero : x.toRat = 0) : Denotes (.number (.float x)) 0
  | text {written : String} {n : Int}
    (number : Text.Padded (Text.IsSignedNumeralOf · n) written.toList) : Denotes (.text written) n

/-- An integer is read if it is a signed word. -/
theorem Denotes.toInt64?_eq {s : Scalar} {n : Int} (denotes : Denotes s n) :
    s.toInt64? = if -2 ^ 63 ≤ n ∧ n < 2 ^ 63 then some n else none := by
  cases denotes with
  | integer fits => exact (Carries.integer fits).toInt64?_eq
  | zero zero =>
    have whole := zero.trans Int.cast_zero.symm
    rw [toInt64?, Binary64.trustedInt?_of_toRat whole (by decide), filter_signedWord]
  | text number => rw [toInt64?, Text.readSigned?_trim_iff.2 number, filter_signedWord]
  | literal literal accepted scalar =>
    obtain ⟨number, rfl, read⟩ := literal.exists_number accepted
    cases scalar
    rcases read with ⟨fits, rfl⟩ | ⟨large, x, rfl, untrusted⟩
    · exact (Carries.integer fits).toInt64?_eq
    · -- Beyond a word the literal has become a double that is no trusted integer.
      have outside : ¬ (-2 ^ 63 ≤ n ∧ n < 2 ^ 63) := by
        unfold FitsWord at large
        omega
      rw [toInt64?, untrusted, if_neg outside]
      rfl

variable {type : IntegerType} {field : String} {s : Scalar} {n : Int}

theorem Denotes.toBounded_of_has (denotes : Denotes s n) (has : type.Has n)
    (word : type = .uint64 → n < 2 ^ 63) :
    ∃ value, FixedWidth.toInt value = n ∧ toBounded type.Value field s = .ok value := by
  obtain ⟨value, made⟩ := IntegerType.exists_ofInt? has
  refine ⟨value, LawfulFixedWidth.toInt_of_ofInt? made, ?_⟩
  rw [toBounded, denotes.toInt64?_eq, if_pos ((IntegerType.signedWord_iff has).2 word),
    Option.bind_some, made]

theorem Denotes.toBounded_of_not_has (denotes : Denotes s n)
    (outside : ¬ (type.Has n ∧ (type = .uint64 → n < 2 ^ 63))) :
    toBounded type.Value field s = .error (.integer field s.plainText) := by
  have missing : (s.toInt64?.bind FixedWidth.ofInt? : Option type.Value) = none := by
    rw [denotes.toInt64?_eq]
    by_cases has : type.Has n
    · rw [if_neg (mt (IntegerType.signedWord_iff has).1 fun word => outside ⟨has, word⟩),
        Option.bind_none]
    · split
      · exact IntegerType.ofInt?_eq_none has
      · rfl
  rw [toBounded, missing]

/-- A field takes the scalar as the integer: a JSON integer, a whole double up to `2 ^ 53` in
size, or text with an optional sign and with blanks around it. -/
inductive TakenAs : Scalar → Int → Prop
  | integer {n : Int} (fits : FitsWord n) : TakenAs (.number (.integer n fits)) n
  | float {n : Int} {x : Binary64} (whole : x.toRat = n) (small : n.natAbs ≤ 2 ^ 53) :
    TakenAs (.number (.float x)) n
  | text {written : String} {n : Int}
    (number : Text.Padded (Text.IsSignedNumeralOf · n) written.toList) : TakenAs (.text written) n

theorem TakenAs.unique {m : Int} (taken : s.TakenAs n) (other : s.TakenAs m) : n = m := by
  cases taken with
  | integer fits => cases other; rfl
  | float whole small =>
    cases other with
    | float wholeOther small => exact Int.cast_inj.1 (whole.symm.trans wholeOther)
  | text number =>
    cases other with
    | text numberOther =>
      have read := Text.readSigned?_trim_iff.2 number
      exact Option.some.inj (read.symm.trans (Text.readSigned?_trim_iff.2 numberOther))

theorem takenAs_of_toInt64? (taken : s.toInt64? = some n) : s.TakenAs n := by
  have value := (Option.filter_eq_some_iff.1 taken).1
  split at value
  next => exact .text (Text.readSigned?_trim_iff.1 value)
  next =>
    cases value
    exact .integer _
  next x =>
    exact .float (Binary64.toRat_of_trustedInt? value) (Binary64.natAbs_le_of_trustedInt? value)

/-- No field takes a scalar that is no integer. -/
theorem takenAs_of_toBounded {α : Type} [FixedWidth α] [LawfulFixedWidth α] {value : α}
    (taken : toBounded α field s = .ok value) : s.TakenAs (FixedWidth.toInt value) := by
  rw [toBounded] at taken
  split at taken
  next made found =>
    cases taken
    obtain ⟨n, read, same⟩ := Option.bind_eq_some_iff.1 found
    rw [LawfulFixedWidth.toInt_of_ofInt? same]
    exact takenAs_of_toInt64? read
  next => cases taken

/-- Its error names the field and shows what was sent. -/
theorem eq_of_toBounded_error {α : Type} [FixedWidth α] {fault : DecodeError}
    (refused : toBounded α field s = .error fault) : fault = .integer field s.plainText := by
  rw [toBounded] at refused
  split at refused
  next => cases refused
  next => exact (Except.error.inj refused).symm

end Scalar

/-! ## Fields -/

namespace Json

/-- A field of a type takes the integers of the type, and every one of them if the type is
narrower than a signed word; of the unsigned word it takes the lower half. Any other integer
is an error that names the field and shows what was sent. -/
theorem boundedField_exact (type : IntegerType) {record : Json} {key : String} {s : Scalar}
    {n : Int} (given : record.scalarField key = some s) (denotes : s.Denotes n) :
    ((∃ value, FixedWidth.toInt value = n ∧
        record.boundedField type.Value key = .ok (some value)) ↔
      type.Has n ∧ (type = .uint64 → n < 2 ^ 63)) ∧
    (¬ (type.Has n ∧ (type = .uint64 → n < 2 ^ 63)) →
      record.boundedField type.Value key = .error (.integer key s.plainText)) := by
  have field : record.boundedField type.Value key =
      (Scalar.toBounded type.Value key s).map some := by
    rw [boundedField, given]
    rfl
  have refused (outside : ¬ (type.Has n ∧ (type = .uint64 → n < 2 ^ 63))) :
      record.boundedField type.Value key = .error (.integer key s.plainText) := by
    rw [field, denotes.toBounded_of_not_has outside]
    rfl
  refine ⟨⟨?_, ?_⟩, refused⟩
  · rintro ⟨value, -, taken⟩
    by_contra outside
    rw [refused outside] at taken
    cases taken
  · rintro ⟨has, word⟩
    obtain ⟨value, same, read⟩ : ∃ value, FixedWidth.toInt value = n ∧
        Scalar.toBounded type.Value key s = .ok value := denotes.toBounded_of_has has word
    refine ⟨value, same, ?_⟩
    rw [field, read]
    rfl

namespace IntegerRangeExamples

/-- A record with one number. -/
def record (key : String) (n : Int) (fits : FitsWord n) : Json :=
  .object [(key, .number (.integer n fits))]

end IntegerRangeExamples

open IntegerRangeExamples in
/-- The least boot order as text, and both sides of the gap in the unsigned word. -/
theorem boundedField_exact_boundaries :
    (∃ value, value.toInt = -2 ^ 31 ∧
        (object [("boot_order", .string "\u3000-02147483648 ")]).boundedField Int32 "boot_order" =
          .ok (some value)) ∧
      (∃ value, (value.toNat : Int) = 2 ^ 63 - 1 ∧
        (record "billing_cycle" (2 ^ 63 - 1) (by decide)).boundedField UInt64 "billing_cycle" =
          .ok (some value)) ∧
      (record "billing_cycle" (2 ^ 63) (by decide)).boundedField UInt64 "billing_cycle" =
        .error (.integer "billing_cycle" "9223372036854775808") ∧
      (record "netmask" 256 (by decide)).boundedField UInt8 "netmask" =
        .error (.integer "netmask" "256") := by
  have least : (Scalar.text "\u3000-02147483648 ").Denotes (-2 ^ 31) :=
    .text ⟨['\u3000'], "-02147483648".toList, [' '], rfl, List.forall_mem_singleton.2 (by decide),
      List.forall_mem_singleton.2 (by decide), .minus (Text.readNumeral?_eq_some_iff.1 rfl)⟩
  have integer (n : Int) (fits : FitsWord n) : Scalar.Denotes _ n := .integer fits
  have given (key : String) (n : Int) (fits : FitsWord n) :
      (record key n fits).scalarField key = some (.number (.integer n fits)) := by
    rw [record, scalarField, member?, List.lookup_cons_self]
    rfl
  refine ⟨?_, ?_, ?_, ?_⟩
  · exact (boundedField_exact .int32 rfl least).1.2 ⟨by decide, by decide⟩
  · exact (boundedField_exact .uint64 (given ..) (integer (2 ^ 63 - 1) (by decide))).1.2
      ⟨by decide, by decide⟩
  · exact (boundedField_exact .uint64 (given ..) (integer (2 ^ 63) (by decide))).2 (by decide)
  · exact (boundedField_exact .uint8 (given ..) (integer 256 (by decide))).2 (by decide)

open IntegerRangeExamples in
/-- A billing cycle is an unsigned word, and the first one of the upper half fails the whole
ledger entry. -/
theorem upper_half_refused :
    IntegerType.uint64.Has (2 ^ 63) ∧
      (Resource.decode (record "billing_cycle" (2 ^ 63) (by decide)) :
        Except DecodeError Transaction) =
          .error (.integer "billing_cycle" "9223372036854775808") :=
  ⟨by decide, rfl⟩

end Json

end CloudInventory
