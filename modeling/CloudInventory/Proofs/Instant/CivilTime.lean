import CloudInventory.Decode.Record
import CloudInventory.Proofs.Instant.DayCount
import CloudInventory.Proofs.Instant.RoundTrip

/-!
# Civil times

A civil time is what a clock and a calendar show somewhere, together with the offset of
that place from UTC. Written with two digits for each field and four for the year, it is
read as the instant that the calendar gives: so many days after 1970-01-01, so far into
the day, less the offset.

Results:
1. `scanStamp_text`: the fields are read as they are written.
2. `decode_text` and `decode_text_of_not_exists`: a time of a date that exists is read as
   its instant, and a time of any other date is refused.
3. `decode_civil_time`: all of this, and which texts denote the same instant.
-/

namespace CloudInventory

/-- A date and a time of day with their offset from UTC. -/
structure CivilTime where
  year : Nat
  month : Nat
  day : Nat
  hour : Nat
  minute : Nat
  second : Nat
  /-- The sign of the offset: the place is to the west of Greenwich. -/
  west : Bool
  offsetHour : Nat
  offsetMinute : Nat
  deriving DecidableEq, Repr

namespace CivilTime

open Instant

def date (w : CivilTime) : Date :=
  ⟨w.year, w.month, w.day⟩

/-- The offset in seconds. -/
def offset (w : CivilTime) : Int :=
  let seconds : Int := w.offsetHour * 3600 + w.offsetMinute * 60
  if w.west then -seconds else seconds

/-- `YYYY-MM-DDTHH:MM:SS+HH:MM`, or with a minus sign. -/
def chars (w : CivilTime) : List Char :=
  padded 4 w.year ++ '-' :: (padded 2 w.month ++ '-' :: (padded 2 w.day ++ 'T' ::
    (padded 2 w.hour ++ ':' :: (padded 2 w.minute ++ ':' :: (padded 2 w.second ++
      (if w.west then '-' else '+') :: (padded 2 w.offsetHour ++ ':' ::
        padded 2 w.offsetMinute))))))

def text (w : CivilTime) : String :=
  String.ofList w.chars

/-- Every field is one that a clock or a calendar shows, up to the days of the month, of
which two digits are all that is asked. A minute may have a leap second. -/
structure InRange (w : CivilTime) : Prop where
  year_le : w.year ≤ 9999
  month_ge : 1 ≤ w.month
  month_le : w.month ≤ 12
  day_le : w.day ≤ 99
  hour_lt : w.hour < 24
  minute_lt : w.minute < 60
  second_le : w.second ≤ 60
  offsetHour_le : w.offsetHour ≤ 23
  offsetMinute_le : w.offsetMinute ≤ 59

/-- Seconds from the epoch to the time, so many days after 1970-01-01. A leap second counts
as the second before it. -/
def secondsFromEpoch (w : CivilTime) (days : Int) : Int :=
  86400 * days + 3600 * w.hour + 60 * w.minute + (min w.second 59 : Nat) - w.offset

/-! ## Scanning -/

/-- The fields of the time as a time stamp has them. -/
def stamp (w : CivilTime) : Stamp :=
  ⟨w.date, w.hour, w.minute, w.second, w.offset⟩

/-- Two characters are scanned as the digits of a number below 100. -/
theorem exists_padded_two {n : Nat} (small : n < 100) :
    ∃ tens ones, padded 2 n = [tens, ones] ∧ (tens.isDigit ∧ ones.isDigit) ∧
      Text.digitsValue [tens, ones] = n := by
  have width : (padded 2 n).length = 2 := length_padded (by decide) small
  obtain ⟨tens, ones, digits⟩ := List.length_eq_two.1 width
  have areDigits := isDigit_of_mem_padded 2 n
  have value := digitsValue_padded 2 n
  rw [digits] at areDigits value
  exact ⟨tens, ones, digits, ⟨areDigits tens (by simp), areDigits ones (by simp)⟩, value⟩

theorem scanOffsetHours_padded {n : Nat} (small : n < 100) (rest : List Char) :
    scanOffsetHours (padded 2 n ++ rest) = .ok (n, rest) := by
  obtain ⟨tens, ones, digits, areDigits, value⟩ := exists_padded_two small
  rw [digits]
  simp only [scanOffsetHours, scanPair, List.cons_append, List.nil_append, ok_bind, value,
    if_pos areDigits]
  rfl

theorem scanOffsetMinutes_padded {n : Nat} (small : n < 60) :
    scanOffsetMinutes (padded 2 n) = .ok (n, []) := by
  obtain ⟨tens, ones, digits, areDigits, value⟩ :=
    exists_padded_two (Nat.lt_trans small (by decide))
  rw [digits]
  simp only [scanOffsetMinutes, scanPair, ok_bind, value, if_pos areDigits, if_pos small]
  rfl

/-- The separator ends where the digits of the minutes start. -/
theorem skipOffsetSeparator_padded (n : Nat) :
    skipOffsetSeparator (':' :: padded 2 n) = padded 2 n := by
  obtain ⟨c, cs, digits, digit⟩ := exists_padded_eq_cons 2 n
  have noColon : (c == ':') = false := by
    rw [beq_eq_false_iff_ne]
    rintro rfl
    exact absurd digit (by decide)
  have stays : ¬ (c == ':' || Text.isBlank c) = true := by
    rw [noColon, Text.isBlank_of_isDigit digit]
    decide
  rw [skipOffsetSeparator, List.dropWhile_cons_of_pos (by decide), digits]
  exact List.dropWhile_cons_of_neg stays

theorem scanOffset_chars (w : CivilTime) (inRange : w.InRange) :
    scanOffset ((if w.west then '-' else '+') :: (padded 2 w.offsetHour ++ ':' ::
      padded 2 w.offsetMinute)) = .ok (w.offset, []) := by
  have hours := scanOffsetHours_padded (n := w.offsetHour) (by have := inRange.offsetHour_le; omega)
  have minutes := scanOffsetMinutes_padded (n := w.offsetMinute)
    (by have := inRange.offsetMinute_le; omega)
  have separator := skipOffsetSeparator_padded w.offsetMinute
  unfold offset
  cases w.west with
  | true =>
    have sign (rest : List Char) :
        scanOffsetSign (Text.trimStart ('-' :: rest)) = .ok (true, rest) := by
      rw [Text.trimStart_cons_of_not_blank (by decide)]
      rfl
    simp only [scanOffset, if_true, sign, hours, separator, minutes, ok_bind]
    rfl
  | false =>
    have sign (rest : List Char) :
        scanOffsetSign (Text.trimStart ('+' :: rest)) = .ok (false, rest) := by
      rw [Text.trimStart_cons_of_not_blank (by decide)]
      rfl
    simp only [scanOffset, Bool.false_eq_true, if_false, sign, hours, separator, minutes, ok_bind]
    rfl

/-- A year of four digits is read without a sign. -/
theorem scanYear_padded {year : Nat} {rest : List Char} (ends : Text.Ends Char.isDigit rest)
    (common : year ≤ 9999) : scanYear (padded 4 year ++ rest) = .ok ((year : Int), rest) := by
  have written : yearChars (year : Int) = padded 4 year := by
    rw [yearChars_eq_padded, if_neg (by omega), if_pos (by omega), Int.natAbs_natCast]
  rw [← written]
  exact scanYear_yearChars ends (by omega)

/-- The fields are read as they are written, if the day is one that some month has. -/
theorem scanStamp_text {w : CivilTime} (inRange : w.InRange) (first : 1 ≤ w.day)
    (last : w.day ≤ 31) : scanStamp w.text.toList = .ok w.stamp := by
  have offset := w.scanOffset_chars inRange
  obtain ⟨common, january, december, -, hour, minute, second, -, -⟩ := inRange
  have year := fun rest : List Char => scanYear_padded (Text.ends_cons (c := '-') rfl rest) common
  have month := fun rest : List Char => scanField_twoDigits rest january december (by omega)
  have day := fun rest : List Char => scanField_twoDigits rest first last (by omega)
  have hours := fun rest : List Char =>
    scanField_twoDigits rest (Nat.zero_le _) (Nat.le_of_lt_succ hour) (by omega)
  have minutes := fun rest : List Char =>
    scanField_twoDigits rest (Nat.zero_le _) (Nat.le_of_lt_succ minute) (by omega)
  have seconds := fun rest : List Char =>
    scanField_twoDigits rest (Nat.zero_le _) second (by omega)
  simp only [twoDigits_eq_padded] at month day hours minutes seconds
  rw [text, String.toList_ofList, chars, scanStamp]
  simp only [year, month, day, hours, minutes, seconds, scanLiteral_cons, offset, ok_bind]
  rfl

/-- A day that no month has is out of range. -/
theorem scanStamp_text_of_day {w : CivilTime} (inRange : w.InRange)
    (noDay : ¬ (1 ≤ w.day ∧ w.day ≤ 31)) : scanStamp w.text.toList = .error .outOfRange := by
  obtain ⟨common, january, december, short, -⟩ := inRange
  have year := fun rest : List Char => scanYear_padded (Text.ends_cons (c := '-') rfl rest) common
  have month := fun rest : List Char => scanField_twoDigits rest january december (by omega)
  have day := fun rest : List Char => scanField_of_not_between rest noDay (by omega)
  simp only [twoDigits_eq_padded] at month day
  rw [text, String.toList_ofList, chars, scanStamp]
  simp only [year, month, day, scanLiteral_cons, ok_bind]
  rfl

/-! ## The instant -/

/-- An offset is less than a day, in whole minutes. -/
theorem offset_bounds {w : CivilTime} (inRange : w.InRange) :
    w.offset.natAbs < 86400 ∧ w.offset % 60 = 0 := by
  have hours := inRange.offsetHour_le
  have minutes := inRange.offsetMinute_le
  simp only [offset]
  split <;> omega

/-- A time of day and an offset lead to the same day, the one before or the one after. -/
theorem day_bounds {w : CivilTime} (inRange : w.InRange) (days : Int) :
    days - 1 ≤ w.secondsFromEpoch days / 86400 ∧ w.secondsFromEpoch days / 86400 ≤ days + 1 := by
  obtain ⟨small, -⟩ := offset_bounds inRange
  have hour := inRange.hour_lt
  have minute := inRange.minute_lt
  simp only [secondsFromEpoch]
  omega

/-- All these times are in the range of instants. -/
theorem days_in_range {w : CivilTime} (inRange : w.InRange) (existing : w.date.Exists) :
    Date.daysBeforeYear (-262143) - Date.epochDay ≤
        w.secondsFromEpoch w.date.dayNumber / 86400 ∧
      w.secondsFromEpoch w.date.dayNumber / 86400 <
        Date.daysBeforeYear 262143 - Date.epochDay := by
  obtain ⟨earliest, latest⟩ := Date.dayNumber_bounds existing
  obtain ⟨below, above⟩ := day_bounds inRange w.date.dayNumber
  have common := inRange.year_le
  have zero : Date.daysBeforeYear 0 ≤ Date.daysBeforeYear w.date.year :=
    Date.daysBeforeYear_mono (Int.natCast_nonneg _)
  have last : Date.daysBeforeYear (w.date.year + 1) ≤ Date.daysBeforeYear 10000 :=
    Date.daysBeforeYear_mono (by simp only [date]; omega)
  have before : Date.daysBeforeYear (-262143) < Date.daysBeforeYear 0 := by decide
  have after : Date.daysBeforeYear 10000 < Date.daysBeforeYear 262143 - 1 := by decide
  omega

/-- The instant of a time on a date that exists. -/
def instant (w : CivilTime) (inRange : w.InRange) (existing : w.date.Exists) : Instant where
  second := w.secondsFromEpoch w.date.dayNumber
  leap := w.second == 60
  year_ge := (days_in_range inRange existing).1
  year_le := (days_in_range inRange existing).2
  leap_end leap := by
    obtain ⟨-, wholeMinutes⟩ := offset_bounds inRange
    have sixty := beq_iff_eq.1 leap
    simp only [secondsFromEpoch]
    omega

/-- A time on a date that exists is read as its instant. -/
theorem decode_text {w : CivilTime} (inRange : w.InRange) (existing : w.date.Exists) :
    decode w.text = .ok (w.instant inRange existing) := by
  have scanned := scanStamp_text inRange existing.2.2.1 (Date.day_le_of_exists existing)
  have common := inRange.year_le
  have first : minYear ≤ w.date.year := by
    simp only [minYear, date]
    omega
  have last : w.date.year ≤ maxYear := by
    simp only [maxYear, date]
    omega
  have second : w.secondsFromEpoch w.date.dayNumber = w.stamp.localSecond - w.stamp.offset := by
    simp only [secondsFromEpoch, Stamp.localSecond, stamp]
    omega
  have read : parse w.text = .ok (w.instant inRange existing) :=
    parse_eq_ok_iff.2
      ⟨w.stamp, scanned, ⟨existing, first, last, (offset_bounds inRange).1⟩, second, rfl⟩
  rw [decode, read]
  rfl

/-- A time on a date that does not exist is refused. -/
theorem decode_text_of_not_exists {w : CivilTime} (inRange : w.InRange)
    (missing : ¬ w.date.Exists) : decode w.text = .error (.timestamp w.text .outOfRange) := by
  have read : parse w.text = .error .outOfRange := by
    by_cases someMonth : 1 ≤ w.day ∧ w.day ≤ 31
    · rw [parse, scanStamp_text inRange someMonth.1 someMonth.2]
      exact if_neg fun valid => missing valid.1
    · rw [parse, scanStamp_text_of_day inRange someMonth]
      rfl
  rw [decode, read]
  rfl

/-! ## Which times are one instant -/

/-- Both times are so many seconds after the epoch. -/
def SameInstant (w u : CivilTime) : Prop :=
  ∃ days other, w.date.DaysFromEpoch days ∧ u.date.DaysFromEpoch other ∧
    w.secondsFromEpoch days = u.secondsFromEpoch other

/-- The second time is the start of the minute after that of the first one. -/
def NextMinute (w u : CivilTime) : Prop :=
  u.second = 0 ∧ ∃ days other, w.date.DaysFromEpoch days ∧ u.date.DaysFromEpoch other ∧
    u.secondsFromEpoch other = { w with second := 0 }.secondsFromEpoch days + 60

section

variable {w u : CivilTime} (existing : w.date.Exists) (other : u.date.Exists)

include existing

theorem daysFromEpoch_dayNumber : w.date.DaysFromEpoch w.date.dayNumber :=
  (Date.daysFromEpoch_iff existing).2 rfl

include other

theorem sameInstant_iff :
    w.SameInstant u ↔
      w.secondsFromEpoch w.date.dayNumber = u.secondsFromEpoch u.date.dayNumber := by
  constructor
  · rintro ⟨days, others, counted, countedToo, same⟩
    rwa [(Date.daysFromEpoch_iff existing).1 counted,
      (Date.daysFromEpoch_iff other).1 countedToo] at same
  · intro same
    exact ⟨_, _, daysFromEpoch_dayNumber existing, daysFromEpoch_dayNumber other, same⟩

/-- Two texts are read alike if they denote one instant and none or both are leap seconds. -/
theorem decode_text_eq_iff (inRange : w.InRange) (inRangeToo : u.InRange) :
    decode w.text = decode u.text ↔ w.SameInstant u ∧ (w.second = 60 ↔ u.second = 60) := by
  rw [decode_text inRange existing, decode_text inRangeToo other, Except.ok.injEq,
    sameInstant_iff existing other, ← beq_iff_eq (a := w.second), ← beq_iff_eq (a := u.second),
    ← Bool.eq_iff_iff]
  exact Iff.of_eq (Instant.mk.injEq ..)

end

/-- The text of every time on a date of the calendar is read as the instant that is so many
days after 1970-01-01, so far into the day, less the offset; the date may come before, and
the offset may lead to another day, month or year. A leap second has the number of the
second before it, but is not that second, nor the one after it, with which the next minute
starts. A date that does not exist is refused. So two texts without leap seconds are read
alike exactly if they denote one instant. -/
theorem decode_civil_time :
    (∀ w : CivilTime, w.InRange → w.date.Exists →
      ∃ days t, w.date.DaysFromEpoch days ∧ decode w.text = .ok t ∧
        t.second = w.secondsFromEpoch days ∧ (t.leap = true ↔ w.second = 60)) ∧
    (∀ w : CivilTime, w.InRange → ¬ w.date.Exists →
      decode w.text = .error (.timestamp w.text .outOfRange)) ∧
    (∀ w : CivilTime, w.InRange → w.date.Exists → w.second = 60 →
      ∃ t before, decode w.text = .ok t ∧ decode { w with second := 59 }.text = .ok before ∧
        t.second = before.second ∧ t ≠ before ∧
        ∀ u : CivilTime, u.InRange → u.date.Exists → w.NextMinute u →
          ∃ after, decode u.text = .ok after ∧ after.second = t.second + 1 ∧ after ≠ t) ∧
    ∀ w u : CivilTime, w.InRange → w.date.Exists → u.InRange → u.date.Exists →
      w.second < 60 → u.second < 60 → (decode w.text = decode u.text ↔ w.SameInstant u) := by
  refine ⟨?_, fun w inRange missing => decode_text_of_not_exists inRange missing, ?_, ?_⟩
  · intro w inRange existing
    exact ⟨_, _, daysFromEpoch_dayNumber existing, decode_text inRange existing, rfl, beq_iff_eq⟩
  · intro w inRange existing sixty
    have earlier : InRange { w with second := 59 } :=
      { inRange with second_le := show 59 ≤ 60 by decide }
    refine ⟨_, _, decode_text inRange existing, decode_text earlier existing, ?_, ?_, ?_⟩
    · simp only [instant, secondsFromEpoch, sixty]
      rfl
    · intro same
      have leap := congrArg Instant.leap same
      simp only [instant, sixty] at leap
      cases leap
    · rintro u inRangeToo other ⟨started, days, others, counted, countedToo, next⟩
      rw [(Date.daysFromEpoch_iff existing).1 counted,
        (Date.daysFromEpoch_iff other).1 countedToo] at next
      refine ⟨_, decode_text inRangeToo other, ?_, ?_⟩
      · simp only [instant, secondsFromEpoch, started, sixty, offset] at next ⊢
        omega
      · intro same
        have leap := congrArg Instant.leap same
        simp only [instant, sixty, started] at leap
        cases leap
  · intro w u inRange existing inRangeToo other second secondToo
    rw [decode_text_eq_iff existing other inRange inRangeToo]
    exact and_iff_left (iff_of_false (Nat.ne_of_lt second) (Nat.ne_of_lt secondToo))

/-! ## The turn of a month -/

namespace Examples

/-- Shortly before midnight on a leap day, in the west. -/
def leapDay : CivilTime :=
  ⟨2000, 2, 29, 23, 30, 15, true, 1, 45⟩

/-- The same moment in the east. -/
def nextMorning : CivilTime :=
  ⟨2000, 3, 1, 3, 0, 15, false, 1, 45⟩

/-- A century without a leap day. -/
def noLeapDay : CivilTime :=
  { leapDay with year := 1900 }

/-- The last leap second of a year. -/
def leapSecond : CivilTime :=
  ⟨2016, 12, 31, 23, 59, 60, false, 0, 0⟩

def newYear : CivilTime :=
  ⟨2017, 1, 1, 0, 0, 0, false, 0, 0⟩

end Examples

open Examples in
/-- A leap day in the west is the first of March in UTC, and has another date in the east;
the last second of a year is not the first one of the next. -/
theorem decode_civil_time_leap_day :
    leapDay.text = "2000-02-29T23:30:15-01:45" ∧
      (∃ t, decode leapDay.text = .ok t ∧ t.second = 951873315) ∧
      decode leapDay.text = decode nextMorning.text ∧
      decode noLeapDay.text = .error (.timestamp noLeapDay.text .outOfRange) ∧
      ∃ t after, decode leapSecond.text = .ok t ∧ decode newYear.text = .ok after ∧
        after.second = t.second + 1 ∧ after ≠ t := by
  obtain ⟨read, refused, leap, alike⟩ := decode_civil_time
  have west : leapDay.InRange := by constructor <;> decide
  have east : nextMorning.InRange := by constructor <;> decide
  have none : noLeapDay.InRange := by constructor <;> decide
  have last : leapSecond.InRange := by constructor <;> decide
  have first : newYear.InRange := by constructor <;> decide
  have westDate : leapDay.date.Exists := by decide
  have eastDate : nextMorning.date.Exists := by decide
  have lastDate : leapSecond.date.Exists := by decide
  have firstDate : newYear.date.Exists := by decide
  obtain ⟨days, t, counted, decoded, second, -⟩ := read leapDay west westDate
  obtain ⟨sixty, -, decodedLeap, -, -, -, minute⟩ := leap leapSecond last lastDate rfl
  obtain ⟨after, decodedNext, later, different⟩ := minute newYear first firstDate
    ⟨rfl, _, _, daysFromEpoch_dayNumber lastDate, daysFromEpoch_dayNumber firstDate, by decide⟩
  refine ⟨by decide, ⟨t, decoded, ?_⟩, ?_, refused noLeapDay none (by decide), sixty, after,
    decodedLeap, decodedNext, later, different⟩
  · rw [second, (Date.daysFromEpoch_iff westDate).1 counted]
    decide
  · exact (alike leapDay nextMorning west westDate east eastDate (by decide) (by decide)).2
      ((sameInstant_iff westDate eastDate).2 (by decide))

end CivilTime

end CloudInventory
