import CloudInventory.Proofs.Instant.CivilDate
import Mathlib.Logic.Function.Iterate

/-!
# Days counted one by one

The number of a day is not only a formula: it counts the days that lie between the date
and 1970-01-01. From each date to the next the calendar goes on by the lengths of the
months, and in every such step the number grows by one.

Results:
1. `exists_next` and `dayNumber_next`: the day after a date is a date with the next number.
2. `daysFromEpoch_iff`: so many steps lead from 1970-01-01 to a date, or back from it.
3. `dayNumber_bounds`: the numbers of the days of a year.
-/

namespace CloudInventory

namespace Date

/-- 1970-01-01. -/
def epoch : Date :=
  ⟨1970, 1, 1⟩

/-- The day after: in the same month, else the first of the next one. -/
def next (d : Date) : Date :=
  if d.day < daysInMonth d.year d.month then ⟨d.year, d.month, d.day + 1⟩
  else if d.month < 12 then ⟨d.year, d.month + 1, 1⟩
  else ⟨d.year + 1, 1, 1⟩

/-- So many days after 1970-01-01 comes the date; a negative number counts the days
from the date to 1970-01-01. -/
def DaysFromEpoch (d : Date) (days : Int) : Prop :=
  next^[days.toNat] epoch = next^[(-days).toNat] d

theorem exists_epoch : epoch.Exists := by decide

theorem dayNumber_epoch : epoch.dayNumber = 0 := by decide

/-! ## One day -/

/-- Every month has a first day. -/
theorem one_le_daysInMonth (year : Int) {month : Nat} (first : 1 ≤ month) (last : month ≤ 12) :
    1 ≤ daysInMonth year month := by
  obtain ⟨front, length, back, split, rfl⟩ := exists_split_of_month year first last
  have shortest : ∀ leap, ∀ days ∈ monthLengths leap, 1 ≤ days := by decide
  rw [daysInMonth_of_split split]
  apply shortest (isLeapYear year)
  rw [split]
  exact List.mem_append_right front List.mem_cons_self

theorem daysBeforeMonth_one (year : Int) : daysBeforeMonth year 1 = 0 := rfl

/-- The next month starts when this one is over. -/
theorem daysBeforeMonth_succ (year : Int) {month : Nat} (first : 1 ≤ month) (notLast : month < 12) :
    daysBeforeMonth year (month + 1) = daysBeforeMonth year month + daysInMonth year month := by
  obtain ⟨front, length, back, split, rfl⟩ :=
    exists_split_of_month year first (Nat.le_of_lt notLast)
  rw [daysInMonth_of_split split, daysBeforeMonth_of_split split]
  cases back with
  | nil =>
    have months : (monthLengths (isLeapYear year)).length = 12 := rfl
    rw [split, List.length_append, List.length_singleton] at months
    omega
  | cons following back =>
    have behind : monthLengths (isLeapYear year) = (front ++ [length]) ++ following :: back := by
      rw [split, List.append_assoc, List.singleton_append]
    have started := daysBeforeMonth_of_split behind
    rw [List.length_append, List.length_singleton, List.sum_append, List.sum_singleton] at started
    exact started

/-- The year is over with its last month. -/
theorem daysBeforeYear_succ_eq (year : Int) :
    daysBeforeYear (year + 1) =
      daysBeforeYear year + daysBeforeMonth year 12 + daysInMonth year 12 := by
  obtain ⟨front, length, back, split, december⟩ :=
    exists_split_of_month year (show 1 ≤ 12 by decide) (Nat.le_refl 12)
  have months : (monthLengths (isLeapYear year)).length = 12 := rfl
  rw [split, List.length_append, List.length_cons] at months
  obtain rfl : back = [] := List.length_eq_zero_iff.1 (by omega)
  rw [daysBeforeYear_succ, december, daysBeforeMonth_of_split split, daysInMonth_of_split split,
    split, List.sum_append, List.sum_singleton]
  omega

/-- The day after a date is a date. -/
theorem exists_next {d : Date} (existing : d.Exists) : d.next.Exists := by
  obtain ⟨year, month, day⟩ := d
  obtain ⟨first, last, -, -⟩ : 1 ≤ month ∧ month ≤ 12 ∧ _ := existing
  unfold next
  split
  next inside => exact ⟨first, last, Nat.le_add_left 1 day, inside⟩
  next =>
    split
    next notLast =>
      exact ⟨Nat.le_add_left 1 month, notLast, Nat.le_refl 1,
        one_le_daysInMonth year (Nat.le_add_left 1 month) notLast⟩
    next =>
      have january : 1 ≤ 12 := by decide
      exact ⟨Nat.le_refl 1, january, Nat.le_refl 1,
        one_le_daysInMonth (year + 1) (Nat.le_refl 1) january⟩

/-- The day after has the next number. -/
theorem dayNumber_next {d : Date} (existing : d.Exists) :
    d.next.dayNumber = d.dayNumber + 1 := by
  obtain ⟨first, last, positive, within⟩ := existing
  unfold next
  split
  next inside =>
    simp only [dayNumber]
    omega
  next ended =>
    split
    next notLast =>
      have started := daysBeforeMonth_succ d.year first notLast
      simp only [dayNumber]
      omega
    next last =>
      obtain december : d.month = 12 := by omega
      have started := daysBeforeYear_succ_eq d.year
      rw [december] at within ended
      simp only [dayNumber, december, daysBeforeMonth_one]
      omega

/-! ## Any number of days -/

/-- Day after day the number grows with the days. -/
theorem dayNumber_iterate_next {d : Date} (existing : d.Exists) (days : Nat) :
    (next^[days] d).Exists ∧ (next^[days] d).dayNumber = d.dayNumber + days := by
  induction days with
  | zero => exact ⟨existing, by rw [Function.iterate_zero_apply]; omega⟩
  | succ days ih =>
    rw [Function.iterate_succ_apply']
    refine ⟨exists_next ih.1, ?_⟩
    rw [dayNumber_next ih.1, ih.2]
    omega

/-- Two dates with one number are the same. -/
theorem eq_of_dayNumber_eq {d e : Date} (existing : d.Exists) (other : e.Exists)
    (same : d.dayNumber = e.dayNumber) : d = e := by
  rw [← ofDayNumber_dayNumber existing, same, ofDayNumber_dayNumber other]

/-- The number of a date is the count of days from 1970-01-01 to it. -/
theorem daysFromEpoch_iff {d : Date} (existing : d.Exists) {days : Int} :
    d.DaysFromEpoch days ↔ days = d.dayNumber := by
  obtain ⟨ahead, aheadNumber⟩ := dayNumber_iterate_next exists_epoch days.toNat
  obtain ⟨back, backNumber⟩ := dayNumber_iterate_next existing (-days).toNat
  rw [dayNumber_epoch] at aheadNumber
  constructor
  · intro same
    rw [DaysFromEpoch] at same
    rw [same, backNumber] at aheadNumber
    omega
  · rintro rfl
    refine eq_of_dayNumber_eq ahead back ?_
    rw [aheadNumber, backNumber]
    omega

/-- The days of a year come after its start and before that of the next one. -/
theorem dayNumber_bounds {d : Date} (existing : d.Exists) :
    daysBeforeYear d.year - epochDay ≤ d.dayNumber ∧
      d.dayNumber < daysBeforeYear (d.year + 1) - epochDay := by
  have date := ofDayNumber_dayNumber existing
  constructor
  · apply le_year_ofDayNumber_iff.1
    exact Int.le_of_eq (congrArg year date).symm
  · have notAfter : ¬ d.year + 1 ≤ (ofDayNumber d.dayNumber).year := by
      rw [date]
      omega
    exact Int.not_le.1 (mt le_year_ofDayNumber_iff.2 notAfter)

end Date

end CloudInventory
