import CloudInventory.Instant.Basic
import CloudInventory.Text.Blank

/-!
# Reading a time stamp

A time stamp is a date, a time of day and an offset from UTC, such as
`2013-05-28T11:57:01+02:00`. It is scanned from left to right and the first fault
is the one reported. Blanks may stand before every number and before the offset;
a year with a sign may have any number of digits. Only after the scan is the date
looked up in the calendar and moved to UTC.
-/

namespace CloudInventory

namespace Instant

/-- Why a text is no time stamp. -/
inductive Fault where
  /-- The text ends where more is needed. -/
  | incomplete
  /-- A character that cannot stand where it does. -/
  | malformed
  /-- A number, a date or an offset that does not exist. -/
  | outOfRange
  /-- Text after the offset. -/
  | trailing
  /-- The instant lies outside the years that are represented. -/
  | unrepresentable
  deriving DecidableEq, Repr

/-- The reason as messages give it. -/
def Fault.message : Fault → String
  | .incomplete => "premature end of input"
  | .malformed => "input contains invalid characters"
  | .outOfRange => "input is out of range"
  | .trailing => "trailing input"
  | .unrepresentable => "no possible date and time matching input"

/-! ## Scanning

A scan yields a value and the text that follows it.
-/

/-- Digits, at most `most` of them, if a bound is given. A value beyond a signed
word of 64 bits is out of range. -/
def scanDigits (most : Option Nat) (cs : List Char) : Except Fault (Nat × List Char) :=
  let run := cs.takeWhile Char.isDigit
  let digits := match most with
    | some count => run.take count
    | none => run
  match cs, digits with
  | [], _ => .error .incomplete
  | _ :: _, [] => .error .malformed
  | _ :: _, _ :: _ =>
    let value := Text.digitsValue digits
    if value < 0x8000000000000000 then .ok (value, cs.drop digits.length) else .error .outOfRange

/-- A number of at most two digits between two bounds, after blanks. -/
def scanField (low high : Nat) (cs : List Char) : Except Fault (Nat × List Char) := do
  let (value, rest) ← scanDigits (some 2) (Text.trimStart cs)
  if low ≤ value ∧ value ≤ high then pure (value, rest) else throw .outOfRange

/-- A year, after blanks: four digits at most, or a sign and any number of digits. -/
def scanYear (cs : List Char) : Except Fault (Int × List Char) := do
  let (value, rest) ← match Text.trimStart cs with
    | '-' :: digits => do
      let (value, rest) ← scanDigits none digits
      pure (-(value : Int), rest)
    | '+' :: digits => do
      let (value, rest) ← scanDigits none digits
      pure ((value : Int), rest)
    | digits => do
      let (value, rest) ← scanDigits (some 4) digits
      pure ((value : Int), rest)
  if -0x80000000 ≤ value ∧ value < 0x80000000 then pure (value, rest) else throw .outOfRange

/-- One given character. -/
def scanLiteral (c : Char) : List Char → Except Fault (List Char)
  | [] => .error .incomplete
  | d :: rest => if d = c then .ok rest else .error .malformed

/-- Two characters, where one of several bytes counts as two. -/
def scanPair : List Char → Except Fault ((Char × Char) × List Char)
  | [] => .error .incomplete
  | [c] => if c.utf8Size < 2 then .error .incomplete else .error .malformed
  | c :: d :: rest => .ok ((c, d), rest)

/-- A sign: minus is `-` or U+2212. -/
def scanOffsetSign : List Char → Except Fault (Bool × List Char)
  | [] => .error .incomplete
  | '+' :: rest => .ok (false, rest)
  | '-' :: rest => .ok (true, rest)
  | '\u2212' :: rest => .ok (true, rest)
  | _ :: _ => .error .malformed

/-- The hours of an offset: two digits. -/
def scanOffsetHours (cs : List Char) : Except Fault (Nat × List Char) := do
  let ((tens, ones), rest) ← scanPair cs
  if tens.isDigit ∧ ones.isDigit then pure (Text.digitsValue [tens, ones], rest)
  else throw .malformed

/-- The minutes of an offset: two digits, the first below six. -/
def scanOffsetMinutes (cs : List Char) : Except Fault (Nat × List Char) := do
  let ((tens, ones), rest) ← scanPair cs
  if tens.isDigit ∧ ones.isDigit then
    let minutes := Text.digitsValue [tens, ones]
    if minutes < 60 then pure (minutes, rest) else throw .outOfRange
  else throw .malformed

/-- Colons and blanks, any number of them. -/
def skipOffsetSeparator (cs : List Char) : List Char :=
  cs.dropWhile fun c => c == ':' || Text.isBlank c

/-- An offset from UTC in seconds, after blanks. -/
def scanOffset (cs : List Char) : Except Fault (Int × List Char) := do
  let (negative, rest) ← scanOffsetSign (Text.trimStart cs)
  let (hours, rest) ← scanOffsetHours rest
  let (minutes, rest) ← scanOffsetMinutes (skipOffsetSeparator rest)
  let seconds : Int := hours * 3600 + minutes * 60
  pure (if negative then -seconds else seconds, rest)

/-- The fields of a time stamp as they are written. -/
structure Stamp where
  date : Date
  hour : Nat
  minute : Nat
  second : Nat
  offset : Int
  deriving DecidableEq, Repr

/-- The fields of a text that is a time stamp up to the calendar. -/
def scanStamp (cs : List Char) : Except Fault Stamp := do
  let (year, rest) ← scanYear cs
  let rest ← scanLiteral '-' rest
  let (month, rest) ← scanField 1 12 rest
  let rest ← scanLiteral '-' rest
  let (day, rest) ← scanField 1 31 rest
  let rest ← scanLiteral 'T' rest
  let (hour, rest) ← scanField 0 23 rest
  let rest ← scanLiteral ':' rest
  let (minute, rest) ← scanField 0 59 rest
  let rest ← scanLiteral ':' rest
  let (second, rest) ← scanField 0 60 rest
  let (offset, rest) ← scanOffset rest
  match rest with
  | [] => pure ⟨⟨year, month, day⟩, hour, minute, second, offset⟩
  | _ :: _ => throw .trailing

/-- Seconds from the epoch to the written time, were its offset zero. The leap
second counts as the second before it. -/
def Stamp.localSecond (s : Stamp) : Int :=
  s.date.dayNumber * 86400 + s.hour * 3600 + s.minute * 60 + (min s.second 59 : Nat)

/-- The instant that a stamp denotes. -/
def ofStamp (s : Stamp) : Except Fault Instant :=
  if s.date.Exists ∧ minYear ≤ s.date.year ∧ s.date.year ≤ maxYear ∧ s.offset.natAbs < 86400 then
    match ofParts? (s.localSecond - s.offset) (s.second == 60) with
    | some t => .ok t
    | none => .error .unrepresentable
  else
    .error .outOfRange

/-- The instant that a text denotes. -/
def parse (text : String) : Except Fault Instant := do
  ofStamp (← scanStamp text.toList)

end Instant

end CloudInventory
