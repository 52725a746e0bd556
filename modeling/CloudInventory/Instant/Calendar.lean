/-!
# The proleptic Gregorian calendar

Dates and the number of days from 1970-01-01 to them. Years before the first are
counted through zero to negative ones, with the same leap year rule.
-/

namespace CloudInventory

/-- A date by year, month (from 1) and day of the month (from 1). -/
structure Date where
  year : Int
  month : Nat
  day : Nat
  deriving DecidableEq, Repr

namespace Date

/-- Every fourth year, centuries excepted unless divisible by 400. -/
def isLeapYear (year : Int) : Bool :=
  year % 4 == 0 && (year % 100 != 0 || year % 400 == 0)

/-- The lengths of the months of a year. -/
def monthLengths (leap : Bool) : List Nat :=
  [31, if leap then 29 else 28, 31, 30, 31, 30, 31, 31, 30, 31, 30, 31]

/-- The length of a month; zero for a month that does not exist. -/
def daysInMonth (year : Int) (month : Nat) : Nat :=
  if month = 0 then 0 else (monthLengths (isLeapYear year)).getD (month - 1) 0

/-- Whether the calendar has the date. -/
def Exists (d : Date) : Prop :=
  1 ≤ d.month ∧ d.month ≤ 12 ∧ 1 ≤ d.day ∧ d.day ≤ daysInMonth d.year d.month

instance (d : Date) : Decidable d.Exists :=
  inferInstanceAs (Decidable (_ ∧ _))

/-- Days from 0001-01-01 to the first of January of a year. -/
def daysBeforeYear (year : Int) : Int :=
  365 * (year - 1) + (year - 1) / 4 - (year - 1) / 100 + (year - 1) / 400

/-- Days from the first of January to the first of a month. -/
def daysBeforeMonth (year : Int) (month : Nat) : Nat :=
  ((monthLengths (isLeapYear year)).take (month - 1)).foldl (· + ·) 0

/-- The day number of 1970-01-01, counted from 0001-01-01. -/
def epochDay : Int :=
  daysBeforeYear 1970

/-- Days from 1970-01-01 to the date. -/
def dayNumber (d : Date) : Int :=
  daysBeforeYear d.year + daysBeforeMonth d.year d.month + ((d.day : Int) - 1) - epochDay

/-! ## From days to dates -/

/-- The year of the day that is `day` days after 0001-01-01. The mean length of a
year gives a guess that is off by one at most. -/
def yearOfDay (day : Int) : Int :=
  let guess := day * 400 / 146097 + 1
  if day < daysBeforeYear guess then guess - 1
  else if daysBeforeYear (guess + 1) ≤ day then guess + 1
  else guess

/-- The month and the day of the month, both from 1, of a day of the year, from 0;
`month` is the first of the months whose lengths are given. -/
def monthOfDay (month day : Nat) : List Nat → Nat × Nat
  | [] => (month, day + 1)
  | length :: lengths =>
    if day < length then (month, day + 1) else monthOfDay (month + 1) (day - length) lengths

/-- The date that is `days` days after 1970-01-01. -/
def ofDayNumber (days : Int) : Date :=
  let day := days + epochDay
  let year := yearOfDay day
  let (month, dayOfMonth) :=
    monthOfDay 1 (day - daysBeforeYear year).toNat (monthLengths (isLeapYear year))
  ⟨year, month, dayOfMonth⟩

end Date

end CloudInventory
