import CloudInventory.Instant.Calendar
import CloudInventory.Text.Digits

/-!
# Instants

A point of time in whole seconds, in a range of years around the present. A leap
second is kept: it belongs to the second before it, is told apart from it, and is
written as second 60.
-/

namespace CloudInventory

/-- A point of time in UTC. -/
structure Instant where
  /-- Seconds since 1970-01-01T00:00:00Z. -/
  second : Int
  /-- Whether it is the leap second after `second`. -/
  leap : Bool
  year_ge : Date.daysBeforeYear (-262143) - Date.epochDay ≤ second / 86400
  year_le : second / 86400 < Date.daysBeforeYear 262143 - Date.epochDay
  leap_end : leap = true → second % 60 = 59
  deriving DecidableEq

/-- The least year of an instant. -/
def Instant.minYear : Int := -262143

/-- The greatest year of an instant. -/
def Instant.maxYear : Int := 262142

namespace Instant

/-- The instant with the given parts, if it is in range. -/
def ofParts? (second : Int) (leap : Bool) : Option Instant :=
  if h : Date.daysBeforeYear (-262143) - Date.epochDay ≤ second / 86400 ∧
      second / 86400 < Date.daysBeforeYear 262143 - Date.epochDay ∧
      (leap = true → second % 60 = 59) then
    some ⟨second, leap, h.1, h.2.1, h.2.2⟩
  else
    none

/-- The instant that is `second` seconds after the epoch. -/
def ofEpoch? (second : Int) : Option Instant :=
  ofParts? second false

/-! ## Text -/

/-- A number with at least two digits. -/
def twoDigits (n : Nat) : List Char :=
  let digits := Text.numeral n
  List.replicate (2 - digits.length) '0' ++ digits

/-- At least four digits for a year of the common notation. Other years always
have a sign, and it counts as one of five places. -/
def yearChars (year : Int) : List Char :=
  let digits := Text.numeral year.natAbs
  let padded := List.replicate (4 - digits.length) '0' ++ digits
  if year < 0 then '-' :: padded
  else if year ≤ 9999 then padded
  else '+' :: padded

/-- The date and time of day in UTC, without an offset. -/
def localChars (t : Instant) : List Char :=
  let date := Date.ofDayNumber (t.second / 86400)
  let time := (t.second % 86400).toNat
  yearChars date.year ++ '-' :: (twoDigits date.month ++ '-' :: (twoDigits date.day ++
    'T' :: (twoDigits (time / 3600) ++ ':' :: (twoDigits (time / 60 % 60) ++
      ':' :: twoDigits (time % 60 + if t.leap then 1 else 0)))))

/-- The text that requests carry: a numeric offset of zero. -/
def encode (t : Instant) : String :=
  String.ofList (t.localChars ++ ['+', '0', '0', ':', '0', '0'])

/-- The text in records: `Z` for UTC. -/
def utcText (t : Instant) : String :=
  String.ofList (t.localChars ++ ['Z'])

end Instant

end CloudInventory
