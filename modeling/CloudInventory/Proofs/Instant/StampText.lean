import CloudInventory.Instant.Reader
import CloudInventory.Proofs.Decode.Sequence
import CloudInventory.Proofs.Instant.CivilDate
import CloudInventory.Proofs.Text.Numeral

/-!
# The fields of a written time stamp

The scanner is lenient: blanks, signs and short numbers are accepted. The writer is
not: two digits for each field, four or more for the year, a sign exactly for the
years that four digits do not show. Every field is read back as it was written,
whatever follows it.

Results:
1. `digitsValue_padded`: zeros in front do not change a number.
2. `scanField_twoDigits` and `scanYear_yearChars`: a field and a year are read back.
3. `year_bounds` and `stamp_time`: the fields of an instant are between the bounds of
   the scanner.
4. `scanStamp_encode`: the fields of a written instant are those of its UTC date and
   time of day.
-/

namespace CloudInventory

namespace Instant

open Text

/-! ## Padded numerals -/

/-- A numeral that zeros fill up to a number of places. -/
def padded (places n : Nat) : List Char :=
  List.replicate (places - (numeral n).length) '0' ++ numeral n

theorem isDigit_of_mem_padded (places n : Nat) :
    ∀ c ∈ padded places n, c.isDigit = true := by
  intro c member
  rcases List.mem_append.1 member with zero | digit
  · rw [List.eq_of_mem_replicate zero]
    rfl
  · exact isDigit_of_mem_numeral c digit

theorem padded_ne_nil (places n : Nat) : padded places n ≠ [] :=
  List.append_ne_nil_of_right_ne_nil _ (numeral_ne_nil n)

/-- Zeros in front do not change a number. -/
theorem digitsValue_padded (places n : Nat) : digitsValue (padded places n) = n := by
  rw [digitsValue, padded, Nat.ofDigitChars_append, Nat.ofDigitChars_replicate_zero, Nat.mul_zero]
  exact digitsValue_numeral n

theorem length_padded {places n : Nat} (positive : 0 < places) (small : n < 10 ^ places) :
    (padded places n).length = places := by
  have fits : (numeral n).length ≤ places :=
    (Nat.length_toDigits_le_iff (by decide) positive).2 small
  rw [padded, List.length_append, List.length_replicate, Nat.sub_add_cancel fits]

/-- The first character of a padded numeral is a digit. -/
theorem exists_padded_eq_cons (places n : Nat) :
    ∃ c cs, padded places n = c :: cs ∧ c.isDigit = true := by
  cases digits : padded places n with
  | nil => exact absurd digits (padded_ne_nil places n)
  | cons c cs =>
    refine ⟨c, cs, rfl, isDigit_of_mem_padded places n c ?_⟩
    rw [digits]
    exact List.mem_cons_self

theorem trimStart_padded (places n : Nat) (rest : List Char) :
    trimStart (padded places n ++ rest) = padded places n ++ rest := by
  obtain ⟨c, cs, digits, digit⟩ := exists_padded_eq_cons places n
  rw [digits]
  exact trimStart_cons_of_not_blank (isBlank_of_isDigit digit)

/-! ## Fields -/

/-- A padded numeral is read back if the bound on digits or the next character ends it. -/
theorem scanDigits_padded {most : Option Nat} {places n : Nat} {rest : List Char}
    (ended : most = some (padded places n).length ∨ most = none ∧ Ends Char.isDigit rest)
    (small : n < 0x8000000000000000) :
    scanDigits most (padded places n ++ rest) = .ok (n, rest) := by
  have digits : ∀ c ∈ padded places n, c.isDigit = true := isDigit_of_mem_padded places n
  have value := digitsValue_padded places n
  obtain ⟨c, cs, written, -⟩ := exists_padded_eq_cons places n
  rw [written] at ended digits value ⊢
  have after : (c :: cs ++ rest).drop (c :: cs).length = rest := List.drop_left
  rcases ended with rfl | ⟨rfl, ends⟩
  · have front : ((c :: cs ++ rest).takeWhile Char.isDigit).take (c :: cs).length = c :: cs := by
      rw [List.takeWhile_append_of_pos digits, List.take_left]
    rw [List.cons_append] at front after ⊢
    simp only [scanDigits, front, value, after, if_pos small]
  · have front : (c :: cs ++ rest).takeWhile Char.isDigit = c :: cs := takeWhile_run digits ends
    rw [List.cons_append] at front after ⊢
    simp only [scanDigits, front, value, after, if_pos small]

theorem twoDigits_eq_padded (n : Nat) : twoDigits n = padded 2 n := rfl

section

variable {low high n : Nat} (rest : List Char)

theorem scanDigits_twoDigits (small : n < 100) :
    scanDigits (some 2) (padded 2 n ++ rest) = .ok (n, rest) := by
  have width : (padded 2 n).length = 2 := length_padded (by decide) small
  exact scanDigits_padded (Or.inl (congrArg some width.symm)) (by omega)

/-- A field between its bounds is read back. -/
theorem scanField_twoDigits (above : low ≤ n) (below : n ≤ high) (small : n < 100) :
    scanField low high (twoDigits n ++ rest) = .ok (n, rest) := by
  rw [twoDigits_eq_padded, scanField, trimStart_padded, scanDigits_twoDigits rest small]
  exact if_pos ⟨above, below⟩

/-- A field outside its bounds is out of range. -/
theorem scanField_of_not_between (outside : ¬ (low ≤ n ∧ n ≤ high)) (small : n < 100) :
    scanField low high (twoDigits n ++ rest) = .error .outOfRange := by
  rw [twoDigits_eq_padded, scanField, trimStart_padded, scanDigits_twoDigits rest small]
  exact if_neg outside

end

theorem yearChars_eq_padded (year : Int) :
    yearChars year =
      if year < 0 then '-' :: padded 4 year.natAbs
      else if year ≤ 9999 then padded 4 year.natAbs
      else '+' :: padded 4 year.natAbs := rfl

section

variable {n : Nat} {year : Int} {digits rest : List Char}
  (within : -0x80000000 ≤ year ∧ year < 0x80000000)

include within

theorem scanYear_minus (scanned : scanDigits none digits = .ok (n, rest))
    (value : -(n : Int) = year) : scanYear ('-' :: digits) = .ok (year, rest) := by
  rw [scanYear, trimStart_cons_of_not_blank (by decide)]
  simp only [scanned, ok_bind, pure_bind, value, if_pos within]
  rfl

theorem scanYear_plus (scanned : scanDigits none digits = .ok (n, rest))
    (value : (n : Int) = year) : scanYear ('+' :: digits) = .ok (year, rest) := by
  rw [scanYear, trimStart_cons_of_not_blank (by decide)]
  simp only [scanned, ok_bind, pure_bind, value, if_pos within]
  rfl

theorem scanYear_digit {c : Char} (digit : c.isDigit = true)
    (scanned : scanDigits (some 4) (c :: digits) = .ok (n, rest)) (value : (n : Int) = year) :
    scanYear (c :: digits) = .ok (year, rest) := by
  rw [scanYear, trimStart_cons_of_not_blank (isBlank_of_isDigit digit)]
  split
  next minus =>
    cases minus
    exact absurd digit (by decide)
  next plus =>
    cases plus
    exact absurd digit (by decide)
  next =>
    simp only [scanned, ok_bind, pure_bind, value, if_pos within]
    rfl

end

/-- A year is read back, with or without a sign. -/
theorem scanYear_yearChars {year : Int} {rest : List Char} (ends : Ends Char.isDigit rest)
    (within : -0x80000000 ≤ year ∧ year < 0x80000000) :
    scanYear (yearChars year ++ rest) = .ok (year, rest) := by
  have small : year.natAbs < 0x8000000000000000 := by omega
  have signed : scanDigits none (padded 4 year.natAbs ++ rest) = .ok (year.natAbs, rest) :=
    scanDigits_padded (Or.inr ⟨rfl, ends⟩) small
  rw [yearChars_eq_padded]
  split
  next negative =>
    exact scanYear_minus within signed (by omega)
  next natural =>
    split
    next common =>
      have width : (padded 4 year.natAbs).length = 4 :=
        length_padded (by decide) (show year.natAbs < 10 ^ 4 by omega)
      have plain : scanDigits (some 4) (padded 4 year.natAbs ++ rest) = .ok (year.natAbs, rest) :=
        scanDigits_padded (Or.inl (congrArg some width.symm)) small
      obtain ⟨c, cs, digits, digit⟩ := exists_padded_eq_cons 4 year.natAbs
      rw [digits] at plain ⊢
      exact scanYear_digit within digit plain (by omega)
    next late =>
      exact scanYear_plus within signed (by omega)

theorem scanLiteral_cons (c : Char) (rest : List Char) : scanLiteral c (c :: rest) = .ok rest :=
  if_pos rfl

/-! ## The whole stamp -/

/-- The UTC date. -/
def date (t : Instant) : Date :=
  Date.ofDayNumber (t.second / 86400)

/-- The fields that an instant is written with. -/
def stamp (t : Instant) : Stamp :=
  let time := (t.second % 86400).toNat
  ⟨t.date, time / 3600, time / 60 % 60, time % 60 + if t.leap then 1 else 0, 0⟩

theorem date_exists (t : Instant) : t.date.Exists ∧ t.date.dayNumber = t.second / 86400 :=
  Date.exists_ofDayNumber _

/-- The bounds on the days of an instant are bounds on its year. -/
theorem year_bounds (t : Instant) : minYear ≤ t.date.year ∧ t.date.year ≤ maxYear := by
  constructor
  · exact Date.le_year_ofDayNumber_iff.2 t.year_ge
  · have before : ¬ maxYear + 1 ≤ t.date.year := by
      intro after
      exact absurd (Date.le_year_ofDayNumber_iff.1 after) (Int.not_le.2 t.year_le)
    omega

theorem stamp_time (t : Instant) :
    t.stamp.hour ≤ 23 ∧ t.stamp.minute ≤ 59 ∧ t.stamp.second ≤ 60 := by
  simp only [stamp]
  refine ⟨by omega, by omega, ?_⟩
  split <;> omega

theorem toList_encode (t : Instant) :
    t.encode.toList =
      yearChars t.stamp.date.year ++ '-' :: (twoDigits t.stamp.date.month ++
        '-' :: (twoDigits t.stamp.date.day ++ 'T' :: (twoDigits t.stamp.hour ++
          ':' :: (twoDigits t.stamp.minute ++ ':' :: (twoDigits t.stamp.second ++
            ['+', '0', '0', ':', '0', '0']))))) := by
  rw [encode, String.toList_ofList, localChars]
  simp only [List.append_assoc, List.cons_append]
  rfl

theorem scanOffset_zero : scanOffset ['+', '0', '0', ':', '0', '0'] = .ok (0, []) := rfl

/-- The fields of a written instant are read back. -/
theorem scanStamp_encode (t : Instant) : scanStamp t.encode.toList = .ok t.stamp := by
  obtain ⟨january, december, first, -⟩ := t.date_exists.1
  have last : t.date.day ≤ 31 := Date.day_le_of_exists t.date_exists.1
  obtain ⟨hour, minute, second⟩ := t.stamp_time
  have years : -0x80000000 ≤ t.date.year ∧ t.date.year < 0x80000000 := by
    obtain ⟨above, below⟩ := t.year_bounds
    rw [minYear] at above
    rw [maxYear] at below
    omega
  have year := fun rest : List Char => scanYear_yearChars (ends_cons (c := '-') rfl rest) years
  have month := fun rest : List Char => scanField_twoDigits rest january december (by omega)
  have day := fun rest : List Char => scanField_twoDigits rest first last (by omega)
  have hours := fun rest : List Char =>
    scanField_twoDigits rest (Nat.zero_le _) hour (by omega)
  have minutes := fun rest : List Char =>
    scanField_twoDigits rest (Nat.zero_le _) minute (by omega)
  have seconds := fun rest : List Char =>
    scanField_twoDigits rest (Nat.zero_le _) second (by omega)
  have date : t.stamp.date = t.date := rfl
  rw [toList_encode, scanStamp, date]
  simp only [year, month, day, hours, minutes, seconds, scanLiteral_cons, scanOffset_zero, ok_bind]
  rfl

end Instant

end CloudInventory
