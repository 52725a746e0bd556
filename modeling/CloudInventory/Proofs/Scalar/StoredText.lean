import CloudInventory.Proofs.Json.PlainText
import CloudInventory.Proofs.Resource.FieldLaws
import CloudInventory.Proofs.Resource.References
import CloudInventory.Proofs.Schema.Tokens

/-!
# Numbers that are stored as text

Amounts of money and identifiers are stored as text. A number that comes in the place of
one is stored as its plain text, so what is stored denotes the number that the literal was
read as. Integers of a word and literals of few digits are stored exactly. Any other literal
was rounded before, and its text denotes the shortest decimal of the double.

Results:
1. `Number.storedAs_plainText`: the plain text is what is stored in all these places.
2. `NumberLiteral.isShortest_of_isShort`: a short literal is the shortest decimal of its
   double.
3. `NumberLiteral.abs_plainLiteral_sub_le`: how far the text is from any literal.
4. `NumberLiteral.stored_literal`: what the stored text denotes.
5. `NumberLiteral.rounded_literals_stored`: literals that are stored as another number.
-/

namespace CloudInventory

/-! ## Where numbers are stored -/

/-- The text is what a decoder keeps of the number where it comes as an amount of money
or as an identifier. -/
structure Number.StoredAs (n : Number) (text : String) : Prop where
  /-- In a field of a record. -/
  field : ∀ {type : ResourceType} {key : String} {value : type.Value → Option String},
    (⟨key, .decimal, value⟩ : Field type.Value) ∈ type.fields →
    ∀ {json : Json} {x : type.Value}, Resource.decode json = .ok x →
      type.kind.given? json key = some (.number n) → value x = some text
  /-- In the place of a record, for every type of values that an identifier makes. -/
  bare : ∀ {α : Type} [Resource α] [Identified α],
    (Resource.decodeReference (.number n) : Except DecodeError α) =
      .ok (Identified.ofIdentifier text)
  /-- Such a value has the text as its identity. -/
  identity : ∀ {type : ResourceType} {x : type.Value},
    Resource.decodeReference (.number n) = .ok x →
    ∀ {value : type.Value → Option String},
      (⟨type.kind.identity, .text, value⟩ : Field type.Value) ∈ type.fields ∨
        (⟨type.kind.identity, .decimal, value⟩ : Field type.Value) ∈ type.fields →
      value x = some text
  /-- In a field for a reference there is such a value. -/
  inField : ∀ {type inner : ResourceType} {key : String} {value : type.Value → Option inner.Value},
    (⟨key, .record inner, value⟩ : Field type.Value) ∈ type.fields →
    type.kind.field? key = some (.reference inner.kind) →
    ∀ {json : Json} {x : type.Value}, Resource.decode json = .ok x →
      type.kind.given? json key = some (.number n) →
      ∃ y, value x = some y ∧ Resource.decodeReference (.number n) = .ok y
  /-- In a list of references there is such a value at the place of the number. -/
  inList : ∀ {type inner : ResourceType} {key : String} {value : type.Value → List inner.Value},
    (⟨key, .records inner, value⟩ : Field type.Value) ∈ type.fields →
    type.kind.field? key = some (.list (.reference inner.kind)) →
    ∀ {json : Json} {items : List Json} {i : Nat} {x : type.Value},
      Resource.decode json = .ok x → type.kind.given? json key = some (.array items) →
      items[i]? = some (.number n) →
      ∃ y, (value x)[i]? = some y ∧ Resource.decodeReference (.number n) = .ok y

/-- A field of a decoded resource is what the rule of the field makes of the canonical form
of what is given. -/
theorem ResourceType.convert_of_given {type : ResourceType} {key : String} {rule : Rule}
    {value : type.Value → rule.Value} {shape : Shape} {json given : Json} {x : type.Value}
    (member : (⟨key, rule, value⟩ : Field type.Value) ∈ type.fields)
    (known : type.kind.field? key = some shape) (decoded : Resource.decode json = .ok x)
    (there : type.kind.given? json key = some given) :
    ∃ canonical, shape.read given = .ok canonical ∧
      rule.convert key (some canonical) = .ok (value x) := by
  obtain ⟨record, read, converted⟩ := Resource.decode_eq_ok_iff.1 decoded
  change type.kind.read json = .ok record at read
  have here : rule.convert key (record.member? key) = .ok (value x) :=
    value_of_convert converted _ member
  rcases Shape.readGiven_eq_ok_iff.1 (RecordKind.readGiven_member? read known) with
    ⟨absent, -⟩ | ⟨_, canonical, same, found, readGiven⟩
  · rw [there] at absent
    cases absent
  · rw [there] at same
    cases same
    exact ⟨canonical, readGiven, found ▸ here⟩

/-- A reference is decoded as its canonical record. -/
theorem Resource.decodeReference_of_read {α : Type} [Resource α] {json canonical : Json} {x : α}
    (read : (Shape.reference (Resource.kind α)).read json = .ok canonical)
    (decoded : Resource.ofRecord canonical = .ok x) : Resource.decodeReference json = .ok x := by
  rw [decodeReference, RecordKind.readReference, read]
  exact decoded

namespace Number

variable (n : Number)

/-- A bare number is decoded as the record with its plain text as the identity. -/
theorem convert_of_decodeReference {type : ResourceType} {x : type.Value}
    (decoded : Resource.decodeReference (.number n) = .ok x) :
    type.convert (type.kind.ofIdentifier (.number n)) = .ok x := by
  rw [Resource.decodeReference, RecordKind.readReference, Shape.read] at decoded
  exact decoded

/-- The plain text of a number is stored wherever it comes as an amount or an identifier. -/
theorem storedAs_plainText : n.StoredAs n.plainText where
  field member _ _ decoded there := by
    obtain ⟨shape, known, fits⟩ := ResourceType.fits _ _ member
    cases fits
    obtain ⟨canonical, read, here⟩ := ResourceType.convert_of_given member known decoded there
    rw [Shape.read] at read
    cases read
    exact (Except.ok.inj here).symm
  bare := decodeReference_eq_convertReference _
  identity := by
    intro type x decoded value member
    have converted := n.convert_of_decodeReference decoded
    have there : (type.kind.ofIdentifier (.number n)).member? type.kind.identity =
        some (.string n.plainText) := List.lookup_cons_self
    rcases member with member | member
    · have here := ResourceType.value_of_convert converted _ member
      rw [Field.convert, there] at here
      exact (Except.ok.inj here).symm
    · have here := ResourceType.value_of_convert converted _ member
      rw [Field.convert, there] at here
      exact (Except.ok.inj here).symm
  inField member known _ _ decoded there := by
    obtain ⟨canonical, read, here⟩ := ResourceType.convert_of_given member known decoded there
    obtain ⟨y, converted, same⟩ := map_eq_ok_iff.1 here
    exact ⟨y, same.symm, Resource.decodeReference_of_read read converted⟩
  inList member known _ _ i _ decoded there item := by
    obtain ⟨canonical, read, here⟩ := ResourceType.convert_of_given member known decoded there
    rw [Shape.read, map_eq_ok_iff] at read
    obtain ⟨canonicals, read, rfl⟩ := read
    rw [Shape.readItems_eq_mapM] at read
    -- Reading and converting keep the places, so the value at the place is that of the number.
    have itemsRead := mapM_eq_ok_iff.1 read
    have itemsConverted := mapM_eq_ok_iff.1 here
    obtain ⟨below, same⟩ := List.getElem?_eq_some_iff.1 item
    have belowRead := itemsRead.length_eq ▸ below
    have numberRead := itemsRead.get below belowRead
    rw [List.get_eq_getElem, same] at numberRead
    exact ⟨_, List.getElem?_eq_getElem (itemsConverted.length_eq ▸ belowRead),
      Resource.decodeReference_of_read numberRead (itemsConverted.get belowRead _)⟩

end Number

/-! ## What the text denotes -/

namespace NumberLiteral

/-- The literal of an integer that fits a word. -/
def IsWord (l : NumberLiteral) : Prop :=
  l.fraction = none ∧ l.exponent = none ∧ ∃ value : Int, FitsWord value ∧ l.toRat = value

/-- The digits are those of a number below `10 ^ 15`, and the last one is at most 22 places
away from the point. -/
def IsShort (l : NumberLiteral) : Prop :=
  Text.digitsValue l.digits < 10 ^ 15 ∧
    (l.writtenExponent - (l.fraction.getD []).length).natAbs ≤ 22

variable {l : NumberLiteral}

/-- The value of a literal without fraction and exponent. -/
theorem toRat_of_whole (noFraction : l.fraction = none) (noExponent : l.exponent = none) :
    l.toRat = ((if l.negative then -(Text.digitsValue l.whole : Int)
      else (Text.digitsValue l.whole : Int) : Int) : ℚ) := by
  rw [toRat, magnitude_of_whole noFraction noExponent]
  split
  · rw [Int.cast_neg, Int.cast_natCast]
  · rw [Int.cast_natCast]

/-- A literal is read as the integer that it stands for or as a double. Of the integers of
a word only zero is read as a double, where it has a sign. -/
theorem cases_of_value? {n : Number} (read : l.value? = some n) :
    (∃ value fits, n = .integer value fits ∧ l.toRat = value) ∨
      l.toFloat? = some n ∧ (l.IsWord → l.toRat = 0) := by
  by_cases fractional : l.fraction ≠ none ∨ l.exponent ≠ none
  · rw [value?_of_fractional fractional] at read
    exact .inr ⟨read, fun word => absurd fractional (by simp [word.1, word.2.1])⟩
  · obtain ⟨noFraction, noExponent⟩ := not_or.1 fractional
    have whole := toRat_of_whole (not_not.1 noFraction) (not_not.1 noExponent)
    unfold value? at read
    rw [not_not.1 noFraction, not_not.1 noExponent] at read
    simp only at read
    generalize (if l.negative then -(Text.digitsValue l.whole : Int)
      else (Text.digitsValue l.whole : Int)) = value at whole read
    split at read
    next zero =>
      have none : value = 0 := beq_iff_eq.1 (Bool.and_eq_true_iff.1 zero).2
      exact .inr ⟨read, fun _ => by rw [whole, none, Int.cast_zero]⟩
    next =>
      split at read
      next found =>
        cases read
        obtain ⟨fits, same⟩ := Option.dite_none_right_eq_some.1 found
        exact .inl ⟨value, fits, (Option.some.inj same).symm, whole⟩
      next missing =>
        refine .inr ⟨read, ?_⟩
        rintro ⟨-, -, other, fits, same⟩
        obtain rfl : value = other := Int.cast_injective (whole.symm.trans same)
        rw [Number.ofInt?, dif_pos fits] at missing
        cases missing

/-- What comes as a double was read as one. -/
theorem toFloat?_of_value? {x : Binary64} (read : l.value? = some (.float x)) :
    l.toFloat? = some (.float x) := by
  rcases cases_of_value? read with ⟨_, _, same, -⟩ | ⟨float, -⟩
  · cases same
  · exact float

/-! ## Short literals -/

/-- The zero among the words is short. -/
theorem IsWord.isShort (word : l.IsWord) (zero : l.toRat = 0) : l.IsShort := by
  obtain ⟨noFraction, noExponent, -⟩ := word
  have none : l.magnitude = 0 := by rw [← abs_toRat, zero, abs_zero]
  have digits : (Text.digitsValue l.digits : ℚ) = 0 :=
    (mul_eq_zero.1 none).resolve_right (zpow_ne_zero _ (by norm_num))
  refine ⟨?_, ?_⟩
  · rw [Nat.cast_eq_zero.1 digits]
    decide
  · rw [writtenExponent, noFraction, noExponent]
    decide

section

variable {x : Binary64}

/-- A double has the decimal of the literal in its interval, if the literal is short. -/
theorem roundsFrom_of_isShort (short : l.IsShort) (read : l.toFloat? = some (.float x)) :
    x.RoundsFrom l.magnitude := by
  obtain ⟨few, near⟩ := short
  obtain ⟨y, made, same⟩ := toFloat?_eq_some_iff.1 read
  rw [decimalParts_of_fits (Nat.lt_trans few (by decide))] at made
  rw [Number.float.inj same, Binary64.roundsFrom_withSign]
  exact Binary64.roundsFrom_ofDecimal? (Nat.lt_trans few (by decide)) near made

/-- A short literal is the shortest decimal of its double. -/
theorem isShortest_of_isShort (short : l.IsShort) (read : l.toFloat? = some (.float x)) :
    x.IsShortest l.magnitude := by
  have rounds := roundsFrom_of_isShort short read
  rcases Nat.eq_zero_or_pos (Text.digitsValue l.digits) with none | some
  · have zero : l.magnitude = 0 := by rw [magnitude, none, Nat.cast_zero, zero_mul]
    rw [zero] at rounds ⊢
    exact Binary64.isShortest_zero rounds
  · have one_le : (1 : ℚ) ≤ Text.digitsValue l.digits := by exact_mod_cast some
    have place : (10 : ℚ) ^ (-22 : Int) ≤
        10 ^ (l.writtenExponent - (l.fraction.getD []).length) :=
      zpow_le_zpow_right₀ (by norm_num) (by have := short.2; omega)
    have large : (1 : ℚ) / 2 ^ 1022 ≤ l.magnitude :=
      calc (1 : ℚ) / 2 ^ 1022 ≤ 1 / 2 ^ 100 :=
            one_div_le_one_div_of_le (by norm_num) (pow_le_pow_right₀ (by norm_num) (by norm_num))
        _ ≤ 10 ^ (-22 : Int) := by norm_num
        _ ≤ 10 ^ (l.writtenExponent - (l.fraction.getD []).length) := place
        _ ≤ l.magnitude := le_mul_of_one_le_left (zpow_nonneg (by norm_num) _) one_le
    exact Binary64.isShortest_of_fifteen (rounds.normal large) rounds ⟨_, _, short.1, rfl⟩

end

/-! ## Any literal -/

section

variable {x : Binary64}

/-- The text of a double has the sign of the literal. -/
theorem negative_of_toFloat? (read : l.toFloat? = some (.float x)) : x.negative = l.negative := by
  obtain ⟨y, -, same⟩ := toFloat?_eq_some_iff.1 read
  rw [Number.float.inj same]
  rfl

/-- The text of a double denotes what is written exactly if that is the shortest decimal. -/
theorem toRat_plainLiteral_eq_iff (read : l.toFloat? = some (.float x)) :
    (Number.float x).plainLiteral.toRat = l.toRat ↔ x.IsShortest |l.toRat| := by
  have shown := x.isShortest_shortest
  constructor
  · intro same
    rw [← same, Number.abs_toRat_plainLiteral_float]
    exact shown
  · intro written
    have size := shown.unique written
    rw [Number.toRat_plainLiteral_float, negative_of_toFloat? read, size, abs_toRat, toRat]

/-- The text of a word or of a short literal denotes what is written. -/
theorem toRat_plainLiteral_of_isShort {n : Number} (few : l.IsWord ∨ l.IsShort)
    (read : l.value? = some n) : n.plainLiteral.toRat = l.toRat := by
  rcases cases_of_value? read with ⟨value, fits, rfl, same⟩ | ⟨float, zero⟩
  · rw [Number.toRat_plainLiteral_integer, same]
  · have short : l.IsShort := few.elim (fun word => word.isShort (zero word)) id
    obtain ⟨x, -, rfl⟩ := toFloat?_eq_some_iff.1 float
    rw [toRat_plainLiteral_eq_iff float, abs_toRat]
    exact isShortest_of_isShort short float

/-- The text is not far from what is written: the literal is rounded to a double, and the
double to its shortest decimal. -/
theorem abs_plainLiteral_sub_le {n : Number} (areDigits : ∀ c ∈ l.digits, c.isDigit = true)
    (read : l.value? = some n) :
    |n.plainLiteral.toRat - l.toRat| ≤ |l.toRat| / 2 ^ 50 + 1 / 10 ^ 287 := by
  have tiny := Binary64.underflow_pos
  have nonneg := abs_nonneg l.toRat
  have tenfold : (1 : ℚ) / 10 ^ 287 = 10 * Binary64.underflow := by
    rw [Binary64.underflow, pow_succ]
    field_simp
  rw [tenfold]
  rcases cases_of_value? read with ⟨value, fits, rfl, same⟩ | ⟨read, -⟩
  · rw [Number.toRat_plainLiteral_integer, same, sub_self, abs_zero]
    positivity
  · obtain ⟨x, -, rfl⟩ := toFloat?_eq_some_iff.1 read
    generalize x.withSign l.negative = y at read ⊢
    have first := abs_toFloat?_sub_le areDigits read
    rw [show (Number.float y).toRat = y.toRat from rfl] at first
    have second := Number.abs_toRat_plainLiteral_float_sub_le y
    have size : y.magnitude ≤ |l.toRat| + (|l.toRat| / 2 ^ 51 + Binary64.underflow) := by
      have := abs_sub_abs_le_abs_sub y.toRat l.toRat
      rw [y.abs_toRat] at this
      linarith
    have triangle := abs_sub_le (Number.float y).plainLiteral.toRat y.toRat l.toRat
    linarith

end

/-! ## What is stored -/

/-- A number that is sent as an amount of money or as an identifier is stored as a decimal
numeral. The numeral denotes exactly what is written if that is an integer of a word or a
short literal. Else it denotes the shortest decimal of the double that the literal was read
as, so it is exact if and only if the literal was that decimal, and one part in `2 ^ 50` and
`10 ^ -287` away from it at most. -/
theorem stored_literal {text rest : List Char} {literal : NumberLiteral} {n : Number}
    (scanned : scan? text = some (literal, rest)) (denoted : literal.value? = some n) :
    n.StoredAs n.plainText ∧
      ∃ written, scan? n.plainText.toList = some (written, []) ∧ written.exponent = none ∧
        (literal.IsWord ∨ literal.IsShort → written.toRat = literal.toRat) ∧
        (∀ x, n = .float x → x.IsShortest |written.toRat| ∧
          (written.toRat = literal.toRat ↔ x.IsShortest |literal.toRat|)) ∧
        |written.toRat - literal.toRat| ≤ |literal.toRat| / 2 ^ 50 + 1 / 10 ^ 287 := by
  refine ⟨n.storedAs_plainText, n.plainLiteral, n.scan?_plainText, n.exponent_plainLiteral,
    fun few => toRat_plainLiteral_of_isShort few denoted, ?_,
    abs_plainLiteral_sub_le (isDigit_of_scan? scanned) denoted⟩
  rintro x rfl
  refine ⟨?_, toRat_plainLiteral_eq_iff (toFloat?_of_value? denoted)⟩
  rw [Number.abs_toRat_plainLiteral_float]
  exact x.isShortest_shortest

/-- An amount with cents is stored without the last zero, and denotes what was sent. -/
theorem stored_literal_cents :
    ∃ (literal : NumberLiteral) (n : Number),
      scan? "-12.50".toList = some (literal, []) ∧ literal.value? = some n ∧ literal.IsShort ∧
        (∀ x : Transaction, Resource.decode (.object [("amount", .number n)]) = .ok x →
          x.amount = some "-12.5") ∧
        Resource.decodeReference (.number n) = .ok ({ uuid := some "-12.5" } : Drive) ∧
        ∃ written, scan? "-12.5".toList = some (written, []) ∧ written.toRat = literal.toRat := by
  have scanned : scan? "-12.50".toList =
      some (⟨true, ['1', '2'], some ['5', '0'], none⟩, []) := by decide
  have denoted : value? ⟨true, ['1', '2'], some ['5', '0'], none⟩ =
      some (.float ⟨true, 7036874417766400, -49, by decide, by decide, by decide, by decide⟩) := by
    decide
  have shown : (Number.float ⟨true, 7036874417766400, -49, by decide, by decide, by decide,
      by decide⟩).plainText = "-12.5" := by
    decide +kernel
  have short : IsShort ⟨true, ['1', '2'], some ['5', '0'], none⟩ := ⟨by decide, by decide⟩
  obtain ⟨stored, written, scannedBack, -, carried, -⟩ := stored_literal scanned denoted
  rw [shown] at stored scannedBack
  refine ⟨_, _, scanned, denoted, short, fun x decoded => ?_, stored.bare, written, scannedBack,
    carried (.inr short)⟩
  have amount : (⟨"amount", .decimal, Transaction.amount⟩ : Field Transaction) ∈
      ResourceType.transactionFields := .tail _ (.head _)
  exact @stored.field .transaction _ _ amount _ x decoded rfl

/-- An integer of more than a word and a fraction of nineteen digits: what is stored of
them denotes another number. -/
theorem rounded_literals_stored :
    (∃ (literal : NumberLiteral) (n : Number),
      scan? "18446744073709551617".toList = some (literal, []) ∧ literal.value? = some n ∧
        Resource.decode (.object [("price", .number n)]) =
          .ok ({ price := some "18446744073709552000" } : Pricing) ∧
        Resource.decodeReference (.number n) =
          .ok ({ uuid := some "18446744073709552000" } : Drive) ∧
        ∃ written, scan? "18446744073709552000".toList = some (written, []) ∧
          written.toRat ≠ literal.toRat) ∧
      ∃ (literal : NumberLiteral) (n : Number),
        scan? "1234567890.123456789".toList = some (literal, []) ∧ literal.value? = some n ∧
          Resource.decode (.object [("amount", .number n)]) =
            .ok ({ amount := some "1234567890.1234567" } : Transaction) ∧
          ∃ written, scan? "1234567890.1234567".toList = some (written, []) ∧
            written.toRat ≠ literal.toRat := by
  constructor
  · refine ⟨⟨false, "18446744073709551617".toList, none, none⟩,
      .float ⟨false, 2 ^ 52, 12, by decide, by decide, by decide, by decide⟩,
      by decide, by decide, by decide +kernel, by decide +kernel,
      ⟨false, "18446744073709552000".toList, none, none⟩, by decide, ?_⟩
    rw [toRat_of_whole rfl rfl, toRat_of_whole rfl rfl]
    exact fun same => absurd (Int.cast_injective same) (by decide)
  · refine ⟨⟨false, "1234567890".toList, some "123456789".toList, none⟩,
      .float ⟨false, 5178153039816375, -22, by decide, by decide, by decide, by decide⟩,
      by decide, by decide, by decide +kernel,
      ⟨false, "1234567890".toList, some "1234567".toList, none⟩, by decide, ?_⟩
    have stored : toRat ⟨false, "1234567890".toList, some "1234567".toList, none⟩ =
        (12345678901234567 : Nat) * 10 ^ (-7 : Int) := rfl
    have sent : toRat ⟨false, "1234567890".toList, some "123456789".toList, none⟩ =
        (1234567890123456789 : Nat) * 10 ^ (-9 : Int) := rfl
    rw [stored, sent]
    norm_num

end NumberLiteral

end CloudInventory
