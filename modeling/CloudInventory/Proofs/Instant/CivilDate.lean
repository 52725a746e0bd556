import CloudInventory.Instant.Calendar
import Mathlib.Algebra.GroupWithZero.Nat
import Mathlib.Data.List.GetD

/-!
# Days and dates

Printing an instant turns a number of days into a date, reading turns the date back
into a number. The calendar goes on in both directions without end, so that every
number of days belongs to exactly one date.

Results:
1. `daysBeforeYear_succ`: the length of a year.
2. `yearOfDay_eq_iff`: the guess of the year, corrected by one, is the year of the day.
3. `monthOfDay_append` and `exists_month_of_lt_sum`: months are walked through in order,
   and every day of the year is in one of them.
4. `ofDayNumber_eq_iff`: the date of a day number is the one that has this number.
5. `le_year_ofDayNumber_iff`: bounds on years are bounds on day numbers.
-/

namespace CloudInventory

namespace Date

/-! ## Years -/

/-- A year is as long as its months are together. -/
theorem daysBeforeYear_succ (year : Int) :
    daysBeforeYear (year + 1) = daysBeforeYear year + (monthLengths (isLeapYear year)).sum := by
  -- A quotient grows where the year is a multiple of the divisor.
  have quotient4 : year / 4 = (year - 1) / 4 + if year % 4 = 0 then 1 else 0 := by
    split <;> omega
  have quotient100 : year / 100 = (year - 1) / 100 + if year % 100 = 0 then 1 else 0 := by
    split <;> omega
  have quotient400 : year / 400 = (year - 1) / 400 + if year % 400 = 0 then 1 else 0 := by
    split <;> omega
  have length : ((monthLengths (isLeapYear year)).sum : Int) =
      365 + (if year % 4 = 0 then 1 else 0) - (if year % 100 = 0 then 1 else 0) +
        (if year % 400 = 0 then 1 else 0) := by
    have sums : (monthLengths true).sum = 366 ∧ (monthLengths false).sum = 365 := by decide
    cases leap : isLeapYear year with
    | true =>
      simp only [isLeapYear, Bool.and_eq_true, Bool.or_eq_true, beq_iff_eq, bne_iff_ne] at leap
      rw [sums.1]
      split <;> split <;> split <;> omega
    | false =>
      simp only [isLeapYear, Bool.and_eq_false_iff, Bool.or_eq_false_iff, beq_eq_false_iff_ne,
        bne_eq_false_iff_eq] at leap
      rw [sums.2]
      split <;> split <;> split <;> omega
  simp only [daysBeforeYear, Int.add_sub_cancel]
  omega

theorem daysBeforeYear_mono {year later : Int} (le : year ≤ later) :
    daysBeforeYear year ≤ daysBeforeYear later := by
  simp only [daysBeforeYear]
  omega

/-- The year of a day starts on that day or before, and the next one after it. -/
theorem yearOfDay_bounds (day : Int) :
    daysBeforeYear (yearOfDay day) ≤ day ∧ day < daysBeforeYear (yearOfDay day + 1) := by
  simp only [yearOfDay]
  split
  next early =>
    simp only [daysBeforeYear] at early ⊢
    omega
  next =>
    split
    next late =>
      simp only [daysBeforeYear] at late ⊢
      omega
    next => omega

/-- A day is in one year only. -/
theorem yearOfDay_eq_iff {day year : Int} :
    yearOfDay day = year ↔ daysBeforeYear year ≤ day ∧ day < daysBeforeYear (year + 1) := by
  obtain ⟨started, notEnded⟩ := yearOfDay_bounds day
  constructor
  · rintro rfl
    exact ⟨started, notEnded⟩
  · rintro ⟨after, before⟩
    rcases Int.lt_trichotomy (yearOfDay day) year with less | equal | greater
    · have := daysBeforeYear_mono (show yearOfDay day + 1 ≤ year from less)
      omega
    · exact equal
    · have := daysBeforeYear_mono (show year + 1 ≤ yearOfDay day from greater)
      omega

/-! ## Months -/

/-- A day that is past the months in front, but not past the next one, is in it. -/
theorem monthOfDay_append (month : Nat) (front : List Nat) {length day : Nat} (back : List Nat)
    (inside : day < length) :
    monthOfDay month (front.sum + day) (front ++ length :: back) =
      (month + front.length, day + 1) := by
  induction front generalizing month with
  | nil =>
    rw [List.nil_append, List.sum_nil, Nat.zero_add, monthOfDay, if_pos inside]
    rfl
  | cons first front ih =>
    have past : ¬ (first :: front).sum + day < first := by
      rw [List.sum_cons]
      omega
    have behind : (first :: front).sum + day - first = front.sum + day := by
      rw [List.sum_cons]
      omega
    rw [List.cons_append, monthOfDay, if_neg past, behind, ih, List.length_cons]
    exact congrArg (·, day + 1) (by omega)

/-- Every day of the year is in one of the months. -/
theorem exists_month_of_lt_sum {day : Nat} {lengths : List Nat} (inside : day < lengths.sum) :
    ∃ front length back dayOfMonth, lengths = front ++ length :: back ∧
      day = front.sum + dayOfMonth ∧ dayOfMonth < length := by
  induction lengths generalizing day with
  | nil => exact absurd inside (Nat.not_lt_zero day)
  | cons length lengths ih =>
    rw [List.sum_cons] at inside
    by_cases first : day < length
    · exact ⟨[], length, lengths, day, rfl, by rw [List.sum_nil, Nat.zero_add], first⟩
    · obtain ⟨front, last, back, dayOfMonth, rfl, later, within⟩ :=
        ih (show day - length < lengths.sum by omega)
      refine ⟨length :: front, last, back, dayOfMonth, rfl, ?_, within⟩
      rw [List.sum_cons]
      omega

section

variable {year : Int} {front back : List Nat} {length : Nat}
  (split : monthLengths (isLeapYear year) = front ++ length :: back)

include split

theorem daysInMonth_of_split : daysInMonth year (front.length + 1) = length := by
  rw [daysInMonth, if_neg (Nat.succ_ne_zero _), split, Nat.add_sub_cancel,
    List.getD_append_right _ _ _ _ (Nat.le_refl _), Nat.sub_self]
  rfl

theorem daysBeforeMonth_of_split : daysBeforeMonth year (front.length + 1) = front.sum := by
  rw [daysBeforeMonth, split, Nat.add_sub_cancel, List.take_left, List.sum_eq_foldl_nat]

theorem length_front_lt : front.length < 12 := by
  have months : (monthLengths (isLeapYear year)).length = 12 := rfl
  rw [split, List.length_append, List.length_cons] at months
  omega

end

/-- The lengths of a year, split at a month that exists. -/
theorem exists_split_of_month (year : Int) {month : Nat} (first : 1 ≤ month) (last : month ≤ 12) :
    ∃ front length back, monthLengths (isLeapYear year) = front ++ length :: back ∧
      month = front.length + 1 := by
  have within : month - 1 < (monthLengths (isLeapYear year)).length := by
    have months : (monthLengths (isLeapYear year)).length = 12 := rfl
    omega
  refine ⟨(monthLengths (isLeapYear year)).take (month - 1),
    (monthLengths (isLeapYear year))[month - 1], (monthLengths (isLeapYear year)).drop month,
    ?_, ?_⟩
  · have cut := List.drop_eq_getElem_cons within
    rw [Nat.sub_add_cancel first] at cut
    rw [← cut, List.take_append_drop]
  · rw [List.length_take, Nat.min_eq_left (Nat.le_of_lt within), Nat.sub_add_cancel first]

/-! ## Dates -/

/-- No month is longer than 31 days. -/
theorem day_le_of_exists {d : Date} (existing : d.Exists) : d.day ≤ 31 := by
  obtain ⟨first, last, -, within⟩ := existing
  obtain ⟨front, length, back, split, month⟩ := exists_split_of_month d.year first last
  have longest : ∀ leap, ∀ days ∈ monthLengths leap, days ≤ 31 := by decide
  rw [month, daysInMonth_of_split split] at within
  refine Nat.le_trans within (longest (isLeapYear d.year) length ?_)
  rw [split]
  exact List.mem_append_right front List.mem_cons_self

/-- The date of a day number exists and has this number. -/
theorem exists_ofDayNumber (days : Int) :
    (ofDayNumber days).Exists ∧ (ofDayNumber days).dayNumber = days := by
  obtain ⟨started, notEnded⟩ := yearOfDay_bounds (days + epochDay)
  rw [daysBeforeYear_succ] at notEnded
  obtain ⟨front, length, back, dayOfMonth, split, place, within⟩ :=
    exists_month_of_lt_sum
      (show (days + epochDay - daysBeforeYear (yearOfDay (days + epochDay))).toNat <
        (monthLengths (isLeapYear (yearOfDay (days + epochDay)))).sum by omega)
  have date : ofDayNumber days =
      ⟨yearOfDay (days + epochDay), front.length + 1, dayOfMonth + 1⟩ := by
    simp only [ofDayNumber]
    rw [place, split, monthOfDay_append 1 front back within, Nat.add_comm 1]
  rw [date]
  constructor
  · refine ⟨Nat.le_add_left 1 _, length_front_lt split, Nat.le_add_left 1 _, ?_⟩
    rw [daysInMonth_of_split split]
    exact within
  · simp only [dayNumber]
    rw [daysBeforeMonth_of_split split]
    omega

/-- No other date has this number. -/
theorem ofDayNumber_dayNumber {d : Date} (existing : d.Exists) : ofDayNumber d.dayNumber = d := by
  obtain ⟨year, month, day⟩ := d
  obtain ⟨first, last, positive, within⟩ :
    1 ≤ month ∧ month ≤ 12 ∧ 1 ≤ day ∧ day ≤ daysInMonth year month := existing
  obtain ⟨front, length, back, split, rfl⟩ := exists_split_of_month year first last
  rw [daysInMonth_of_split split] at within
  have number : dayNumber ⟨year, front.length + 1, day⟩ + epochDay =
      daysBeforeYear year + (front.sum + (day - 1) : Nat) := by
    simp only [dayNumber]
    rw [daysBeforeMonth_of_split split]
    omega
  have ended : front.sum + (day - 1) < (monthLengths (isLeapYear year)).sum := by
    rw [split, List.sum_append, List.sum_cons]
    omega
  have inYear : yearOfDay (dayNumber ⟨year, front.length + 1, day⟩ + epochDay) = year := by
    rw [yearOfDay_eq_iff, daysBeforeYear_succ, number]
    omega
  have dayOfYear : (dayNumber ⟨year, front.length + 1, day⟩ + epochDay -
      daysBeforeYear year).toNat = front.sum + (day - 1) := by
    rw [number]
    omega
  simp only [ofDayNumber]
  rw [inYear, dayOfYear, split, monthOfDay_append 1 front back (show day - 1 < length by omega),
    Nat.add_comm 1, Nat.sub_add_cancel positive]

/-- The date of a day number is the one that has this number. -/
theorem ofDayNumber_eq_iff {days : Int} {d : Date} :
    ofDayNumber days = d ↔ d.Exists ∧ d.dayNumber = days := by
  constructor
  · rintro rfl
    exact exists_ofDayNumber days
  · rintro ⟨existing, rfl⟩
    exact ofDayNumber_dayNumber existing

theorem year_ofDayNumber (days : Int) :
    (ofDayNumber days).year = yearOfDay (days + epochDay) := rfl

/-- The dates from a year on are those of the day numbers from its first day on. -/
theorem le_year_ofDayNumber_iff {days year : Int} :
    year ≤ (ofDayNumber days).year ↔ daysBeforeYear year - epochDay ≤ days := by
  obtain ⟨started, notEnded⟩ := yearOfDay_bounds (days + epochDay)
  rw [year_ofDayNumber]
  constructor
  · intro reached
    have := daysBeforeYear_mono reached
    omega
  · intro after
    rcases Int.lt_or_le (yearOfDay (days + epochDay)) year with less | reached
    · have := daysBeforeYear_mono (show yearOfDay (days + epochDay) + 1 ≤ year from less)
      omega
    · exact reached

end Date

end CloudInventory
